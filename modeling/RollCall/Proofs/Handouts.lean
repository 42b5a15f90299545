import RollCall.Proofs.Routing

set_option autoImplicit false

/-!
What a reader of a channel is handed: the messages that arise from the request, one with each call,
in the order of their times. A call is only cut off when nothing more comes before its end.
-/
namespace RollCall

structure Handout where
  called : Nat
  limit : Nat
  answered : Nat
  message : Option Message

/-- The calls of a reader who pauses before each of them and gives each a budget. -/
def Hub.handouts (registry : Registry) : List (Nat × Nat) → Clock → Hub → List Handout
  | [], _, _ => []
  | (pause, budget) :: calls, clock, h =>
    let clock := clock.wait pause
    let (a, h, after) := h.receive registry clock (clock.now + budget)
    ⟨clock.now, clock.now + budget, after.now, a.map Arrival.message⟩ :: handouts registry calls after h

/--
Calls hand out messages: each the first of those that are left if it surfaces in time, as soon as it
does so, and none if no message is left that surfaces before the end of the budget.
-/
inductive HandsOut : List Surfacing → List Handout → Prop
  | done (messages : List Surfacing) : HandsOut messages []
  | message {s : Surfacing} {messages : List Surfacing} {r : Handout} {calls : List Handout}
      (given : r.message = some s.message) (answered : r.answered = max r.called s.ms)
      (inTime : s.ms < r.limit ∨ s.ms ≤ r.called) (later : HandsOut messages calls) :
      HandsOut (s :: messages) (r :: calls)
  | cutOff {messages : List Surfacing} {r : Handout} {calls : List Handout}
      (silent : r.message = none) (answered : r.answered = max r.called r.limit)
      (nothing : ∀ s ∈ messages, r.limit ≤ s.ms) (later : HandsOut messages calls) :
      HandsOut messages (r :: calls)

namespace HandsOut

variable {messages : List Surfacing} {calls : List Handout}

/-- What is handed out are the first messages, in order. -/
theorem isPrefix (hands : HandsOut messages calls) :
    calls.filterMap Handout.message <+: messages.map Surfacing.message := by
  induction hands with
  | done => exact List.nil_prefix
  | message given _ _ _ ih =>
    rw [List.filterMap_cons_some given]
    exact List.cons_prefix_cons.2 ⟨rfl, ih⟩
  | cutOff silent _ _ _ ih =>
    rw [List.filterMap_cons_none silent]
    exact ih

/-- All of them are handed out to one who waits in vain until a horizon that they come before. -/
theorem all_of_cutOff (hands : HandsOut messages calls) {horizon : Nat}
    (early : ∀ s ∈ messages, s.ms < horizon) {r : Handout} (member : r ∈ calls)
    (silent : r.message = none) (last : horizon ≤ r.limit) :
    calls.filterMap Handout.message = messages.map Surfacing.message := by
  induction hands with
  | done => exact (List.not_mem_nil member).elim
  | message given _ _ _ ih =>
    rcases List.mem_cons.1 member with rfl | member
    · rw [silent] at given
      cases given
    · rw [List.filterMap_cons_some given, List.map_cons,
        ih (fun s later => early s (List.mem_cons_of_mem _ later)) member]
  | @cutOff messages r' calls silent' _ nothing later ih =>
    rw [List.filterMap_cons_none silent']
    rcases List.mem_cons.1 member with rfl | member
    · have none : messages = [] := by
        cases messages with
        | nil => rfl
        | cons s rest =>
          have late := nothing s List.mem_cons_self
          have soon := early s List.mem_cons_self
          omega
      subst none
      exact List.prefix_nil.1 later.isPrefix
    · exact ih early member

end HandsOut

namespace Hub

variable {registry : Registry} {bound : Moment} {horizon limit : Nat} {clock : Clock} {h h' : Hub}
  {messages : List Surfacing}

/-- A run that stops earlier is the beginning of a longer one. -/
theorem run_eq_run_of_within (registry : Registry) (within : Within bound horizon) (count : Nat)
    (h : Hub) :
    ∃ fewer, run registry bound count h = run registry (Moment.start horizon) fewer h := by
  induction count generalizing h with
  | zero => exact ⟨0, rfl⟩
  | succ count ih =>
    rw [run]
    cases step : h.step? registry bound with
    | none => exact ⟨0, rfl⟩
    | some h' =>
      obtain ⟨fewer, same⟩ := ih h'
      obtain ⟨t, rest, next, due, rfl⟩ := step?_cases step
      have early : t.due.before (Moment.start horizon) = true :=
        Moment.before_start_iff.2 (within _ due)
      have step' : h.step? registry (Moment.start horizon) =
          some (act registry t.due t t.outbounds rest) := by
        rw [step?, next]
        exact if_pos early
      refine ⟨fewer + 1, ?_⟩
      rw [run, step']
      exact same

/-- The messages for which a run stops have come together and in time. -/
theorem runToMessage_together (registry : Registry) (bound : Moment) (fuel : Nat) (h : Hub) :
    (runToMessage registry bound fuel h).inbox = h.inbox ∨
      ∃ m : Moment, m.before bound ∧
        ∀ a ∈ (runToMessage registry bound fuel h).inbox, a.moment = m := by
  induction fuel generalizing h with
  | zero => exact Or.inl rfl
  | succ fuel ih =>
    rw [runToMessage]
    split
    · rename_i empty
      have none : h.inbox = [] := List.isEmpty_iff.1 empty
      cases step : h.step? registry bound with
      | none => exact Or.inl rfl
      | some h' =>
        obtain ⟨t, rest, next, due, rfl⟩ := step?_cases step
        obtain ⟨new, inbox, dated⟩ := inbox_act registry t.due t t.outbounds rest
        rw [inbox_of_next? next, none, List.nil_append] at inbox
        rcases ih (act registry t.due t t.outbounds rest) with same | together
        · right
          refine ⟨t.due, due, fun a member => ?_⟩
          dsimp only at member
          rw [same, inbox] at member
          exact dated a member
        · exact Or.inr together
    · exact Or.inl rfl

/-- Until the horizon a channel yields these messages to one who reads from now on. -/
structure Yields (registry : Registry) (horizon : Nat) (clock : Clock) (h : Hub)
    (messages : List Surfacing) : Prop where
  paced : ∃ floor, h.Paced floor
  sound : h.Sound horizon
  /-- What has come and was not read has come by now. -/
  unread : ∀ a ∈ h.inbox, a.moment.ms ≤ clock.now
  whole : ∃ count, (run registry (Moment.start horizon) count h).step? registry
      (Moment.start horizon) = none ∧
    (run registry (Moment.start horizon) count h).surfaced = messages

/-- Time may pass before the next call. -/
theorem Yields.later {clock' : Clock} (yields : h.Yields registry horizon clock messages)
    (le : clock.now ≤ clock'.now) : h.Yields registry horizon clock' messages :=
  ⟨yields.paced, yields.sound, fun a member => Nat.le_trans (yields.unread a member) le,
    yields.whole⟩

theorem Yields.wait (yields : h.Yields registry horizon clock messages) (ms : Nat) :
    h.Yields registry horizon (clock.wait ms) messages := by
  refine yields.later ?_
  rw [Clock.now_wait]
  exact Nat.le_add_right _ _

theorem still_unreadAfter_iff {pre : List Arrival} :
    (h.unreadAfter pre).step? registry bound = none ↔ h.step? registry bound = none := by
  rw [step?_unreadAfter, Option.map_eq_none_iff]

/-- Whatever has run already, the same messages come in the end. -/
theorem Yields.run (yields : h.Yields registry horizon clock messages) (count : Nat) :
    ∃ later,
      (Hub.run registry (Moment.start horizon) later
        (Hub.run registry (Moment.start horizon) count h)).step? registry
          (Moment.start horizon) = none ∧
      (Hub.run registry (Moment.start horizon) later
        (Hub.run registry (Moment.start horizon) count h)).surfaced = messages := by
  obtain ⟨all, still, whole⟩ := yields.whole
  have same : Hub.run registry (Moment.start horizon) all
      (Hub.run registry (Moment.start horizon) count h) =
        Hub.run registry (Moment.start horizon) all h := by
    rw [← run_add, Nat.add_comm, run_add, run_of_still still]
  exact ⟨all, same ▸ still, same ▸ whole⟩

/-- A call runs what is due before now or before the end of its budget. -/
theorem before_latest {m : Moment}
    (early : m.before (clock.moment.latest (Moment.start limit)) = true) :
    m.ms < limit ∨ m.ms ≤ clock.now := by
  unfold Moment.latest at early
  split at early
  · exact Or.inl (Moment.before_start_iff.1 early)
  · right
    rw [Moment.before_iff] at early
    simp only [Clock.moment] at early
    omega

theorem latest_not_before :
    ¬ (clock.moment.latest (Moment.start limit)).before (Moment.start limit) = true := by
  unfold Moment.latest
  split
  · rw [Moment.not_before_self]
    exact Bool.false_ne_true
  · assumption

/-- A channel from which the first message has been read. -/
theorem Paced.read {floor : Nat} {a : Arrival} {rest : List Arrival} (paced : h.Paced floor)
    (inbox : h.inbox = a :: rest) : Paced floor { h with inbox := rest } := by
  have past := paced.past
  have sorted := paced.sorted
  rw [surfaced, inbox, List.map_cons] at past sorted
  exact ⟨paced.isOpen, paced.punctual, paced.ahead,
    fun s member => past s (List.mem_cons_of_mem _ member), (List.pairwise_cons.1 sorted).2⟩

/-- A call is answered with the first message of those that are left, or is cut off. -/
theorem Yields.receive (yields : h.Yields registry horizon clock messages)
    (called : clock.now < horizon) (inside : limit ≤ horizon) :
    (∃ a later h' clock', h.receive registry clock limit = (some a, h', clock') ∧
      messages = a.surfacing :: later ∧ clock'.now = max clock.now a.moment.ms ∧
      (a.moment.ms < limit ∨ a.moment.ms ≤ clock.now) ∧
      h'.Yields registry horizon clock' later) ∨
    ∃ h' clock', h.receive registry clock limit = (none, h', clock') ∧
      clock'.now = max clock.now limit ∧ (∀ s ∈ messages, limit ≤ s.ms) ∧
      h'.Yields registry horizon clock' messages := by
  have within : Within (clock.moment.latest (Moment.start limit)) horizon := by
    intro m early
    rcases before_latest early with soon | past
    · exact Nat.lt_of_lt_of_le soon inside
    · exact Nat.lt_of_le_of_lt past called
  have together := runToMessage_together registry (clock.moment.latest (Moment.start limit))
    (h.fresh.length + 1) h
  have enough := yields.sound.runToMessage_enough within registry (h.fresh.length + 1)
    (Nat.lt_succ_self _)
  obtain ⟨count, ran⟩ := runToMessage_eq_run registry
    (clock.moment.latest (Moment.start limit)) (h.fresh.length + 1) h
  obtain ⟨fewer, same⟩ := run_eq_run_of_within registry within count h
  unfold Hub.receive
  dsimp only
  rw [ran, same] at together enough ⊢
  obtain ⟨floor, paced⟩ := yields.paced
  obtain ⟨ms, -, -, still, -⟩ := paced.run registry (Moment.start horizon) fewer
  have sound := yields.sound.run (within_start horizon) registry fewer
  obtain ⟨later, done, whole⟩ := yields.run fewer
  generalize Hub.run registry (Moment.start horizon) fewer h = k at *
  cases inbox : k.inbox with
  | cons a rest =>
    left
    have first : a ∈ k.inbox := inbox ▸ List.mem_cons_self
    have others (b : Arrival) (member : b ∈ rest) : b ∈ k.inbox :=
      inbox ▸ List.mem_cons_of_mem a member
    have inTime : (a.moment.ms < limit ∨ a.moment.ms ≤ clock.now) ∧
        ∀ b ∈ rest, b.moment.ms ≤ max clock.now a.moment.ms := by
      rcases together with before | ⟨m, early, now⟩
      · rw [before] at first others
        exact ⟨Or.inr (yields.unread a first), fun b member =>
          Nat.le_trans (yields.unread b (others b member)) (Nat.le_max_left _ _)⟩
      · rw [now a first]
        refine ⟨before_latest early, fun b member => ?_⟩
        rw [now b (others b member)]
        exact Nat.le_max_right _ _
    have whole' : k = unreadAfter [a] { k with inbox := rest } := by
      simp only [unreadAfter, List.singleton_append, ← inbox]
    rw [whole', run_unreadAfter] at done whole
    refine ⟨a, _, _, _, rfl, whole.symm, Clock.now_waitFor _ _, inTime.1, ⟨ms, still.read inbox⟩,
      ⟨sound.isOpen, sound.waiting, fun b member => sound.inbox b (others b member)⟩, ?_, later,
      still_unreadAfter_iff.1 done, rfl⟩
    rw [Clock.now_waitFor]
    exact inTime.2
  | nil =>
    right
    have none : k.surfaced = [] := by rw [surfaced, inbox, List.map_nil]
    have late : k.Paced limit :=
      ⟨still.isOpen, still.punctual,
        late_of_still latest_not_before (enough.resolve_left (not_not.2 inbox)),
        by simp [none], by simp [none]⟩
    obtain ⟨-, new, -, -, all, dated⟩ := late.run registry (Moment.start horizon) later
    refine ⟨_, _, rfl, Clock.now_waitUntil _ _, ?_, ⟨ms, still⟩, sound, ?_, later, done, whole⟩
    · rw [none, List.nil_append] at all
      rw [← whole, all]
      exact dated
    · rw [inbox]
      exact fun b member => (List.not_mem_nil member).elim

/-- Call by call, a reader is handed what the channel yields. -/
theorem Yields.handsOut (yields : h.Yields registry horizon clock messages)
    (calls : List (Nat × Nat))
    (inside : ∀ r ∈ handouts registry calls clock h, r.called < horizon ∧ r.limit ≤ horizon) :
    HandsOut messages (handouts registry calls clock h) := by
  induction calls generalizing clock h messages with
  | nil => exact .done _
  | cons call calls ih =>
    obtain ⟨pause, budget⟩ := call
    rw [handouts] at inside ⊢
    dsimp only at inside ⊢
    obtain ⟨called, limited⟩ := inside _ List.mem_cons_self
    rcases (yields.wait pause).receive called limited with
      ⟨a, later, h', clock', received, rfl, answered, inTime, still⟩ |
        ⟨h', clock', received, answered, nothing, still⟩
    · rw [received] at inside ⊢
      exact .message rfl answered inTime
        (ih still fun r member => inside r (List.mem_cons_of_mem _ member))
    · rw [received] at inside ⊢
      exact .cutOff rfl answered nothing
        (ih still fun r member => inside r (List.mem_cons_of_mem _ member))

theorem Yields.early (yields : h.Yields registry horizon clock messages) :
    ∀ s ∈ messages, s.ms < horizon := by
  obtain ⟨count, -, whole⟩ := yields.whole
  rw [← whole]
  intro s member
  obtain ⟨a, present, rfl⟩ := List.mem_map.1 member
  exact (yields.sound.run (within_start horizon) registry count).inbox a present

/-- A call that lasts until the horizon. -/
theorem handouts_until (early : clock.now < horizon) (calls : List (Nat × Nat)) :
    handouts registry ((0, horizon - clock.now) :: calls) clock h =
      ⟨clock.now, horizon, (h.receive registry clock horizon).2.2.now,
        (h.receive registry clock horizon).1.map Arrival.message⟩ ::
        handouts registry calls (h.receive registry clock horizon).2.2
          (h.receive registry clock horizon).2.1 := by
  have limit : clock.now + (horizon - clock.now) = horizon := by omega
  simp only [handouts, Clock.wait_zero, limit]

/-- One who waits until the horizon again and again is cut off there in the end. -/
theorem Yields.exists_cutOff (yields : h.Yields registry horizon clock messages)
    (early : clock.now < horizon) :
    ∃ calls, (∀ r ∈ handouts registry calls clock h, r.called < horizon ∧ r.limit ≤ horizon) ∧
      ∃ r ∈ handouts registry calls clock h, r.message = none ∧ horizon ≤ r.limit := by
  induction messages generalizing clock h with
  | nil =>
    refine ⟨[(0, horizon - clock.now)], ?_⟩
    rcases yields.receive early (Nat.le_refl _) with
      ⟨a, later, h', clock', -, same, -⟩ | ⟨h', clock', received, -⟩
    · cases same
    · rw [handouts_until early, received]
      exact ⟨by simp [handouts, early], _, List.mem_cons_self, rfl, Nat.le_refl _⟩
  | cons s messages ih =>
    have soon := yields.early s List.mem_cons_self
    rcases yields.receive early (Nat.le_refl _) with
      ⟨a, later, h', clock', received, same, answered, -, still⟩ | ⟨h', clock', -, -, nothing, -⟩
    · cases same
      have soon : a.moment.ms < horizon := soon
      obtain ⟨calls, inside, r, member, cutOff⟩ := ih still (by omega)
      refine ⟨(0, horizon - clock.now) :: calls, ?_⟩
      rw [handouts_until early, received]
      refine ⟨?_, r, List.mem_cons_of_mem _ member, cutOff⟩
      exact List.forall_mem_cons.2 ⟨⟨early, Nat.le_refl _⟩, inside⟩
    · have late := nothing s List.mem_cons_self
      omega

theorem tasks_published (registry : Registry) (moment : Moment) (topic : String)
    (members : List RecipientId) (request : Request) :
    ((opened topic members).publish registry moment request).tasks =
      started registry moment ⟨request.requestId, none, .payload request.payload⟩ members := by
  rw [publish_eq request rfl]
  rfl

theorem inbox_published (registry : Registry) (moment : Moment) (topic : String)
    (members : List RecipientId) (request : Request) :
    ((opened topic members).publish registry moment request).inbox = [] := by
  rw [publish_eq request rfl]
  rfl

theorem surfaced_published (registry : Registry) (moment : Moment) (topic : String)
    (members : List RecipientId) (request : Request) :
    ((opened topic members).publish registry moment request).surfaced = [] := by
  rw [surfaced, inbox_published, List.map_nil]

end Hub

variable {scripts : RecipientMap (List Rule)} {clock : Clock} {horizon : Nat}

/-- After a request is published a channel yields what arises from it. -/
theorem Hub.exists_yields (topic : String) (members : List RecipientId) (request : Request)
    {n : Nat} (extinct : Surfacing.Extinct scripts horizon
      (Surfacing.spoken scripts clock.now none members) n) :
    ∃ messages, ((opened topic members).publish (Registry.scripted scripts) clock.moment
        request).Yields (Registry.scripted scripts) horizon clock messages ∧
      messages.Perm
        (Surfacing.arising scripts horizon (Surfacing.spoken scripts clock.now none members) n) ∧
      messages.Pairwise fun a b => a.ms ≤ b.ms := by
  have tasks := tasks_published (Registry.scripted scripts) clock.moment topic members request
  have inbox := inbox_published (Registry.scripted scripts) clock.moment topic members request
  have surfaced := surfaced_published (Registry.scripted scripts) clock.moment topic members request
  have sound : ((opened topic members).publish (Registry.scripted scripts) clock.moment
      request).Sound horizon := sound_publish topic members request
  generalize (opened topic members).publish (Registry.scripted scripts) clock.moment request = h
    at *
  have held : h.held.Perm (Surfacing.spoken scripts clock.now none members) := by
    rw [Hub.held, tasks]
    exact surfacings_started clock.moment _ members
  have paced : h.Paced clock.now := by
    refine ⟨sound.isOpen, ?_, ?_, by simp [surfaced], by simp [surfaced]⟩
    · rw [tasks]
      exact fun t member => (punctual_started _ _ _ _ t member).1
    · rw [tasks]
      intro t member
      rw [(punctual_started _ _ _ _ t member).2]
      exact Nat.le_refl _
  obtain ⟨count, still, perm⟩ := exists_still paced sound (extinct.perm held.symm)
  obtain ⟨ms, -, -, pacedLater, -⟩ := paced.run (Registry.scripted scripts) (Moment.start horizon)
    count
  rw [surfaced, List.nil_append] at perm
  refine ⟨_, ⟨⟨_, paced⟩, sound, ?_, count, still, rfl⟩,
    perm.trans (Surfacing.arising_perm held n), pacedLater.sorted⟩
  rw [inbox]
  exact fun a member => (List.not_mem_nil member).elim

/--
While a channel of scripted participants is held, those messages surface on it that arise from the
request, each once. Each call for the next message is answered with the first of those left, in the
order of their times, unless it is over before. Whoever is cut off at the horizon has been handed
all of them, and whoever keeps waiting is cut off there.
-/
theorem channel_hands_out_what_arises (scripts : RecipientMap (List Rule)) (topic : String)
    (members : List RecipientId) (request : Request) (clock : Clock) (horizon : Nat)
    (finite : ∃ bound, ∀ n, (Surfacing.arising scripts horizon
      (Surfacing.spoken scripts clock.now none members) n).length ≤ bound) :
    let handed (calls : List (Nat × Nat)) : List Handout :=
      Hub.handouts (Registry.scripted scripts) calls clock
        ((Hub.opened topic members).publish (Registry.scripted scripts) clock.moment request)
    let inside (calls : List (Nat × Nat)) : Prop :=
      ∀ r ∈ handed calls, r.called < horizon ∧ r.limit ≤ horizon
    ∃ messages : List Surfacing,
      (∃ m, ∀ n, m ≤ n → messages.Perm (Surfacing.arising scripts horizon
        (Surfacing.spoken scripts clock.now none members) n)) ∧
      messages.Pairwise (fun a b => a.ms ≤ b.ms) ∧
      (∀ calls, inside calls → HandsOut messages (handed calls) ∧
        ((∃ r ∈ handed calls, r.message = none ∧ horizon ≤ r.limit) →
          (handed calls).filterMap Handout.message = messages.map Surfacing.message)) ∧
      (clock.now < horizon → ∃ calls, inside calls ∧
        ∃ r ∈ handed calls, r.message = none ∧ horizon ≤ r.limit) := by
  intro handed inside
  obtain ⟨bound, finite⟩ := finite
  obtain ⟨n, extinct⟩ := Surfacing.exists_extinct finite
  obtain ⟨messages, yields, perm, sorted⟩ := Hub.exists_yields topic members request extinct
  refine ⟨messages, ⟨n, fun m later => ?_⟩, sorted, fun calls within => ?_, yields.exists_cutOff⟩
  · rw [Surfacing.arising_of_extinct extinct later]
    exact perm
  · have hands := yields.handsOut calls within
    refine ⟨hands, ?_⟩
    rintro ⟨r, member, silent, last⟩
    exact hands.all_of_cutOff yields.early member silent last

/-- Two who answer each other forever; the first says two messages to the other at once. -/
def Surfacing.rehearsal : RecipientMap (List Rule) :=
  ⟨[(⟨"alice"⟩, [⟨.request, ⟨.payload .null, [⟨"bob"⟩, ⟨"bob"⟩], 0⟩⟩,
      ⟨.forwardedBy ⟨"bob"⟩, ⟨.empty, [⟨"bob"⟩], 2⟩⟩]),
    (⟨"bob"⟩, [⟨.any, ⟨.rejected "busy", [⟨"alice"⟩, ⟨"nobody"⟩], 1⟩⟩])], by decide⟩

theorem Surfacing.extinct_rehearsal :
    Extinct rehearsal 6 (spoken rehearsal 0 none [⟨"alice"⟩, ⟨"nobody"⟩, ⟨"alice"⟩]) 4 := by
  unfold Extinct
  decide

theorem channel_hands_out_what_arises_rehearsal :
    ∃ messages : List Surfacing, messages.length = 14 ∧
      messages.Pairwise (fun a b => a.ms ≤ b.ms) ∧
      ∃ calls, (Hub.handouts (Registry.scripted Surfacing.rehearsal) calls
        (Clock.start fun _ => ⟨0, 0⟩) ((Hub.opened "t" [⟨"alice"⟩, ⟨"nobody"⟩, ⟨"alice"⟩]).publish
          (Registry.scripted Surfacing.rehearsal) (Moment.start 0) ⟨⟨"r"⟩, .null⟩)).filterMap
            Handout.message = messages.map Surfacing.message := by
  obtain ⟨messages, ⟨m, perm⟩, sorted, readers, waits⟩ := channel_hands_out_what_arises
    Surfacing.rehearsal "t" [⟨"alice"⟩, ⟨"nobody"⟩, ⟨"alice"⟩] ⟨⟨"r"⟩, .null⟩
    (Clock.start fun _ => ⟨0, 0⟩) 6 ⟨_, Surfacing.extinct_rehearsal.finite⟩
  obtain ⟨calls, inside, cutOff⟩ := waits (by decide)
  refine ⟨messages, ?_, sorted, calls, (readers calls inside).2 cutOff⟩
  rw [(perm (m + 4) (Nat.le_add_right m 4)).length_eq]
  show (Surfacing.arising Surfacing.rehearsal 6
    (Surfacing.spoken Surfacing.rehearsal 0 none _) (m + 4)).length = 14
  rw [Surfacing.arising_of_extinct Surfacing.extinct_rehearsal (Nat.le_add_left 4 m)]
  decide

end RollCall
