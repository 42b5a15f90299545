import Mathlib.Data.List.Perm.Basic
import RollCall.Transport.Hub

set_option autoImplicit false

/-!
What comes on a channel of a network. The tasks of a channel go on whether anybody reads or not, so
what is read is always the first of what comes anyway, and a wait is only cut off when nothing comes
before its end.
-/
namespace RollCall

namespace Hub

variable {registry : Registry} {moment bound : Moment} {limit : Nat} {h h' : Hub} {t : Task}

theorem perm_of_earliest? {tasks others : List Task} (first : earliest? tasks = some (t, others)) :
    (t :: others).Perm tasks := by
  induction tasks generalizing t others with
  | nil => cases first
  | cons u rest ih =>
    rw [earliest?] at first
    cases later : earliest? rest with
    | none =>
      rw [later] at first
      cases first
      exact List.Perm.refl _
    | some found =>
      obtain ⟨v, left⟩ := found
      have perm := ih later
      rw [later] at first
      dsimp only at first
      split at first
      · cases first
        exact (List.Perm.swap u t left).trans (perm.cons u)
      · cases first
        exact List.Perm.refl _

/-- The next task is one of those that wait or a new one. -/
theorem next?_cases (next : h.next? = some (t, h')) :
    (∃ waiting, (t :: waiting).Perm h.waiting ∧ h' = { h with waiting := waiting }) ∨
      ∃ fresh, (t :: fresh).Perm h.fresh ∧ h' = { h with fresh := fresh } := by
  unfold next? at next
  split at next
  · rename_i w waiting f fresh waits new
    split at next
    · cases next
      exact Or.inr ⟨fresh, perm_of_earliest? new, rfl⟩
    · cases next
      exact Or.inl ⟨waiting, perm_of_earliest? waits, rfl⟩
  · rename_i w waiting waits new
    cases next
    exact Or.inl ⟨waiting, perm_of_earliest? waits, rfl⟩
  · rename_i f fresh waits new
    cases next
    exact Or.inr ⟨fresh, perm_of_earliest? new, rfl⟩
  · cases next

theorem closed_of_next? (next : h.next? = some (t, h')) : h'.closed = h.closed := by
  rcases next?_cases next with ⟨_, -, rfl⟩ | ⟨_, -, rfl⟩ <;> rfl

/-- A step runs the next task, which is due. -/
theorem step?_cases (step : h.step? registry bound = some h') :
    ∃ t rest, h.next? = some (t, rest) ∧ t.due.before bound ∧
      h' = act registry t.due t t.outbounds rest := by
  unfold step? at step
  cases next : h.next? with
  | none =>
    rw [next] at step
    cases step
  | some found =>
    obtain ⟨t, rest⟩ := found
    rw [next] at step
    dsimp only at step
    split at step
    · rename_i due
      cases step
      exact ⟨t, rest, rfl, due, rfl⟩
    · cases step

def started (registry : Registry) (moment : Moment) (m : Inbound) (targets : List RecipientId) :
    List Task :=
  targets.filterMap fun r => (registry.get? r).map fun p =>
    ⟨r, m.requestId, moment, moment.ms, p.answers m⟩

theorem foldl_deliver (m : Inbound) (targets : List RecipientId) {h : Hub}
    (isOpen : h.closed = false) :
    targets.foldl (fun h r => h.deliver registry moment m r) h =
      { h with fresh := h.fresh ++ started registry moment m targets } := by
  induction targets generalizing h with
  | nil => simp [started]
  | cons target rest ih =>
    rw [List.foldl_cons]
    cases registered : registry.get? target with
    | none =>
      have same : h.deliver registry moment m target = h := by simp [deliver, isOpen, registered]
      rw [same, ih isOpen]
      simp [started, registered]
    | some p =>
      have begun : h.deliver registry moment m target = { h with
          fresh := h.fresh ++ [⟨target, m.requestId, moment, moment.ms, p.answers m⟩] } := by
        simp [deliver, isOpen, registered]
      have still : (h.deliver registry moment m target).closed = false := by rw [begun, isOpen]
      rw [ih still, begun]
      simp [started, registered]

/-- Nothing is delivered on a channel that was given back. -/
theorem foldl_deliver_of_closed (m : Inbound) (targets : List RecipientId) {h : Hub}
    (closed : h.closed = true) :
    targets.foldl (fun h r => h.deliver registry moment m r) h = h := by
  induction targets with
  | nil => rfl
  | cons target rest ih =>
    have same : h.deliver registry moment m target = h := by simp [deliver, closed]
    rw [List.foldl_cons, same, ih]

/-- An answer comes into the inbox and starts the tasks of those that it is forwarded to. -/
theorem emit_eq (id : RequestId) (owner : RecipientId) (o : Outbound) {h : Hub}
    (isOpen : h.closed = false) :
    h.emit registry moment id owner o =
      { h with
        inbox := h.inbox ++ [⟨moment, ⟨owner, o.body, o.forwardTo⟩⟩]
        fresh := h.fresh ++ started registry moment ⟨id, some owner, o.body⟩ o.forwardTo } :=
  foldl_deliver ⟨id, some owner, o.body⟩ o.forwardTo isOpen

theorem publish_eq (request : Request) {h : Hub} (isOpen : h.closed = false) :
    h.publish registry moment request =
      { h with
        fresh := h.fresh ++
          started registry moment ⟨request.requestId, none, .payload request.payload⟩ h.members } :=
  foldl_deliver _ _ isOpen

theorem act_of_due {o : Outbound} {rest : List Outbound} (isOpen : h.closed = false)
    (due : t.received + o.delay ≤ moment.ms) :
    act registry moment t (o :: rest) h =
      act registry moment t rest { h with
        inbox := h.inbox ++ [⟨moment, ⟨t.owner, o.body, o.forwardTo⟩⟩]
        fresh := h.fresh ++
          started registry moment ⟨t.requestId, some t.owner, o.body⟩ o.forwardTo } := by
  rw [act, if_pos due, if_neg (ne_true_of_eq_false isOpen), emit_eq _ _ _ isOpen]

/-- On a channel that was given back a task gives out nothing. -/
theorem act_of_closed {o : Outbound} {rest : List Outbound} (closed : h.closed = true)
    (due : t.received + o.delay ≤ moment.ms) : act registry moment t (o :: rest) h = h := by
  rw [act, if_pos due, if_pos closed]

/-- A task adds to the inbox what it gives out, all at the moment at which it runs. -/
theorem inbox_act (registry : Registry) (moment : Moment) (t : Task) (outbounds : List Outbound)
    (h : Hub) :
    ∃ new, (act registry moment t outbounds h).inbox = h.inbox ++ new ∧
      ∀ a ∈ new, a.moment = moment := by
  induction outbounds generalizing h with
  | nil => exact ⟨[], (List.append_nil _).symm, by simp⟩
  | cons o rest ih =>
    by_cases due : t.received + o.delay ≤ moment.ms
    · cases state : h.closed with
      | true => exact ⟨[], by rw [act_of_closed state due, List.append_nil], by simp⟩
      | false =>
        rw [act_of_due state due]
        obtain ⟨new, inbox, dated⟩ := ih { h with
          inbox := h.inbox ++ [⟨moment, ⟨t.owner, o.body, o.forwardTo⟩⟩]
          fresh := h.fresh ++
            started registry moment ⟨t.requestId, some t.owner, o.body⟩ o.forwardTo }
        refine ⟨⟨moment, ⟨t.owner, o.body, o.forwardTo⟩⟩ :: new, ?_, ?_⟩
        · rw [inbox, List.append_assoc]
          rfl
        · intro a member
          rcases List.mem_cons.1 member with rfl | later
          · rfl
          · exact dated a later
    · rw [act, if_neg due]
      exact ⟨[], (List.append_nil _).symm, by simp⟩

theorem closed_act (registry : Registry) (moment : Moment) (t : Task) (outbounds : List Outbound)
    (h : Hub) : (act registry moment t outbounds h).closed = h.closed := by
  induction outbounds generalizing h with
  | nil => rfl
  | cons o rest ih =>
    by_cases due : t.received + o.delay ≤ moment.ms
    · cases state : h.closed with
      | true => rw [act_of_closed state due, state]
      | false =>
        rw [act_of_due state due, ih]
        exact state
    · rw [act, if_neg due]

/-- A task that gives out nothing starts nothing. -/
theorem fresh_act_of_silent {outbounds : List Outbound}
    (silent : (act registry moment t outbounds h).inbox = []) :
    (act registry moment t outbounds h).fresh = h.fresh := by
  cases outbounds with
  | nil => rfl
  | cons o rest =>
    by_cases due : t.received + o.delay ≤ moment.ms
    · cases state : h.closed with
      | true => rw [act_of_closed state due]
      | false =>
        rw [act_of_due state due] at silent
        obtain ⟨new, inbox, -⟩ := inbox_act registry moment t rest
          { h with
            inbox := h.inbox ++ [⟨moment, ⟨t.owner, o.body, o.forwardTo⟩⟩]
            fresh := h.fresh ++
              started registry moment ⟨t.requestId, some t.owner, o.body⟩ o.forwardTo }
        rw [silent] at inbox
        simp at inbox
    · rw [act, if_neg due]

def unreadAfter (pre : List Arrival) (h : Hub) : Hub := { h with inbox := pre ++ h.inbox }

variable (pre : List Arrival)

theorem act_unreadAfter (outbounds : List Outbound) (h : Hub) :
    act registry moment t outbounds (h.unreadAfter pre) =
      (act registry moment t outbounds h).unreadAfter pre := by
  induction outbounds generalizing h with
  | nil => rfl
  | cons o rest ih =>
    by_cases due : t.received + o.delay ≤ moment.ms
    · cases state : h.closed with
      | true => rw [act_of_closed state due, act_of_closed (h := h.unreadAfter pre) state due]
      | false =>
        rw [act_of_due state due, act_of_due (h := h.unreadAfter pre) state due, ← ih]
        simp only [unreadAfter, List.append_assoc]
    · rw [act, act, if_neg due, if_neg due]
      rfl

theorem next?_unreadAfter (h : Hub) :
    (h.unreadAfter pre).next? = h.next?.map fun p => (p.1, p.2.unreadAfter pre) := by
  simp only [next?, unreadAfter]
  split
  · split <;> rfl
  · rfl
  · rfl
  · rfl

theorem step?_unreadAfter (h : Hub) :
    (h.unreadAfter pre).step? registry bound =
      (h.step? registry bound).map (unreadAfter pre) := by
  unfold step?
  rw [next?_unreadAfter]
  cases h.next? with
  | none => rfl
  | some found =>
    obtain ⟨t, rest⟩ := found
    dsimp only [Option.map_some]
    split
    · rw [act_unreadAfter]
      rfl
    · rfl

theorem run_unreadAfter (count : Nat) (h : Hub) :
    run registry bound count (h.unreadAfter pre) =
      (run registry bound count h).unreadAfter pre := by
  induction count generalizing h with
  | zero => rfl
  | succ count ih =>
    rw [run, run, step?_unreadAfter]
    cases h.step? registry bound with
    | none => rfl
    | some h' => exact ih h'

/-- What has come after so many tasks that are due before an instant, if nobody has read it. -/
def arrivals (registry : Registry) (limit : Nat) (count : Nat) (h : Hub) : List Message :=
  (run registry (Moment.start limit) count h).inbox.map Arrival.message

theorem run_add (m n : Nat) (h : Hub) :
    run registry bound (m + n) h = run registry bound n (run registry bound m h) := by
  induction m generalizing h with
  | zero => rw [Nat.zero_add, run]
  | succ m ih =>
    rw [Nat.add_right_comm, run, run]
    cases next : h.step? registry bound with
    | none =>
      cases n with
      | zero => rfl
      | succ n => rw [run, next]
    | some h' => exact ih h'

theorem run_of_still (still : h.step? registry bound = none) (count : Nat) :
    run registry bound count h = h := by
  cases count with
  | zero => rfl
  | succ count => rw [run, still]

theorem inbox_step? (step : h.step? registry bound = some h') :
    ∃ new, h'.inbox = h.inbox ++ new ∧ ∀ a ∈ new, a.moment.before bound := by
  obtain ⟨t, rest, next, due, rfl⟩ := step?_cases step
  obtain ⟨new, inbox, dated⟩ := inbox_act registry t.due t t.outbounds rest
  have same : rest.inbox = h.inbox := by
    rcases next?_cases next with ⟨_, -, rfl⟩ | ⟨_, -, rfl⟩
    · rfl
    · rfl
  refine ⟨new, by rw [inbox, same], ?_⟩
  intro a member
  rw [dated a member]
  exact due

/-- Whatever comes later comes after what has come. -/
theorem inbox_run (registry : Registry) (bound : Moment) (count : Nat) (h : Hub) :
    ∃ new, (run registry bound count h).inbox = h.inbox ++ new ∧
      ∀ a ∈ new, a.moment.before bound := by
  induction count generalizing h with
  | zero => exact ⟨[], (List.append_nil _).symm, by simp⟩
  | succ count ih =>
    rw [run]
    cases next : h.step? registry bound with
    | none => exact ⟨[], (List.append_nil _).symm, by simp⟩
    | some h' =>
      obtain ⟨first, inbox, early⟩ := inbox_step? next
      obtain ⟨later, inboxLater, earlyLater⟩ := ih h'
      refine ⟨first ++ later, ?_, ?_⟩
      · show (run registry bound count h').inbox = _
        rw [inboxLater, inbox, List.append_assoc]
      · intro a member
        rcases List.mem_append.1 member with here | there
        · exact early a here
        · exact earlyLater a there

theorem arrivals_mono (registry : Registry) (limit : Nat) {m n : Nat} (fewer : m ≤ n) (h : Hub) :
    arrivals registry limit m h <+: arrivals registry limit n h := by
  obtain ⟨new, inbox, -⟩ := inbox_run registry (Moment.start limit) (n - m)
    (run registry (Moment.start limit) m h)
  rw [← run_add, Nat.add_sub_cancel' fewer] at inbox
  exact List.IsPrefix.map Arrival.message ⟨new, inbox.symm⟩

theorem runToMessage_eq_run (registry : Registry) (bound : Moment) (fuel : Nat) (h : Hub) :
    ∃ count, runToMessage registry bound fuel h = run registry bound count h := by
  induction fuel generalizing h with
  | zero => exact ⟨0, rfl⟩
  | succ fuel ih =>
    rw [runToMessage]
    split
    · cases next : h.step? registry bound with
      | none => exact ⟨0, rfl⟩
      | some h' =>
        obtain ⟨count, same⟩ := ih h'
        refine ⟨count + 1, ?_⟩
        rw [run, next]
        exact same
    · exact ⟨0, rfl⟩

/-- All who wait do so for their next answer, and nothing has come at an instant or after it. -/
structure Sound (limit : Nat) (h : Hub) : Prop where
  isOpen : h.closed = false
  waiting : ∀ t ∈ h.waiting, ∃ o rest, t.outbounds = o :: rest ∧ t.received + o.delay ≤ t.due.ms
  inbox : ∀ a ∈ h.inbox, a.moment.ms < limit

theorem Sound.act (sound : h.Sound limit) (early : moment.ms < limit) (outbounds : List Outbound) :
    (act registry moment t outbounds h).Sound limit := by
  induction outbounds generalizing h with
  | nil => exact sound
  | cons o rest ih =>
    by_cases due : t.received + o.delay ≤ moment.ms
    · rw [act_of_due sound.isOpen due]
      refine ih ⟨sound.isOpen, sound.waiting, ?_⟩
      intro a member
      rcases List.mem_append.1 member with before | new
      · exact sound.inbox a before
      · rw [List.mem_singleton.1 new]
        exact early
    · rw [Hub.act, if_neg due]
      refine ⟨sound.isOpen, ?_, sound.inbox⟩
      intro u member
      rcases List.mem_append.1 member with before | new
      · exact sound.waiting u before
      · rw [List.mem_singleton.1 new]
        exact ⟨o, rest, rfl, Nat.le_refl _⟩

theorem Sound.next (sound : h.Sound limit) (next : h.next? = some (t, h')) : h'.Sound limit := by
  rcases next?_cases next with ⟨waiting, perm, rfl⟩ | ⟨fresh, -, rfl⟩
  · exact ⟨sound.isOpen, fun u member =>
      sound.waiting u (perm.mem_iff.1 (List.mem_cons_of_mem t member)), sound.inbox⟩
  · exact ⟨sound.isOpen, sound.waiting, sound.inbox⟩

def Within (bound : Moment) (limit : Nat) : Prop := ∀ m : Moment, m.before bound → m.ms < limit

theorem within_start (limit : Nat) : Within (Moment.start limit) limit :=
  fun _ => Moment.before_start_iff.1

theorem Sound.step (sound : h.Sound limit) (within : Within bound limit)
    (step : h.step? registry bound = some h') : h'.Sound limit := by
  obtain ⟨t, rest, next, due, rfl⟩ := step?_cases step
  exact (sound.next next).act (within _ due) t.outbounds

theorem Sound.run (sound : h.Sound limit) (within : Within bound limit) (registry : Registry)
    (count : Nat) : (run registry bound count h).Sound limit := by
  induction count generalizing h with
  | zero => exact sound
  | succ count ih =>
    rw [Hub.run]
    cases step : h.step? registry bound with
    | none => exact sound
    | some h' => exact ih (sound.step within step)

/-- A step that brings nothing is the first of a new task, which is one less afterwards. -/
theorem Sound.fewer (sound : h.Sound limit) (step : h.step? registry bound = some h')
    (silent : h'.inbox = []) : h'.fresh.length < h.fresh.length := by
  obtain ⟨t, rest, next, -, rfl⟩ := step?_cases step
  rw [fresh_act_of_silent silent]
  rcases next?_cases next with ⟨waiting, perm, rfl⟩ | ⟨fresh, perm, rfl⟩
  · -- a task that waited gives out an answer at once
    obtain ⟨o, later, outbounds, due⟩ :=
      sound.waiting t (perm.mem_iff.1 (List.mem_cons_self (a := t) (l := waiting)))
    have isOpen : ({ h with waiting := waiting } : Hub).closed = false := sound.isOpen
    rw [outbounds, act_of_due isOpen due] at silent
    obtain ⟨new, inbox, -⟩ := inbox_act registry t.due t later
      { h with
        waiting := waiting
        inbox := h.inbox ++ [⟨t.due, ⟨t.owner, o.body, o.forwardTo⟩⟩]
        fresh := h.fresh ++
          started registry t.due ⟨t.requestId, some t.owner, o.body⟩ o.forwardTo }
    rw [silent] at inbox
    simp at inbox
  · have length := perm.length_eq
    rw [List.length_cons] at length
    exact Nat.lt_of_succ_le (Nat.le_of_eq length)

theorem Sound.runToMessage_enough (sound : h.Sound limit) (within : Within bound limit)
    (registry : Registry) (fuel : Nat) (enough : h.fresh.length < fuel) :
    (runToMessage registry bound fuel h).inbox ≠ [] ∨
      (runToMessage registry bound fuel h).step? registry bound = none := by
  induction fuel generalizing h with
  | zero => omega
  | succ fuel ih =>
    rw [runToMessage]
    split
    · cases step : h.step? registry bound with
      | none => exact Or.inr step
      | some h' =>
        by_cases silent : h'.inbox = []
        · have fewer := sound.fewer step silent
          exact ih (sound.step within step) (by omega)
        · left
          cases fuel with
          | zero => exact silent
          | succ fuel =>
            show (runToMessage registry bound (fuel + 1) h').inbox ≠ []
            rw [runToMessage, if_neg (by simpa using silent)]
            exact silent
    · rename_i came
      exact Or.inl (by simpa using came)

theorem receive_eq (registry : Registry) {clock : Clock} (early : clock.now < limit) (h : Hub) :
    ∃ count, h.receive registry clock limit =
        (match (run registry (Moment.start limit) count h).inbox with
        | a :: rest => (some a,
            { run registry (Moment.start limit) count h with inbox := rest },
            clock.waitFor a.moment)
        | [] => (none, run registry (Moment.start limit) count h, clock.waitUntil limit)) ∧
      (h.Sound limit → (run registry (Moment.start limit) count h).inbox = [] →
        (run registry (Moment.start limit) count h).step? registry (Moment.start limit) = none) := by
  have bounded : clock.moment.latest (Moment.start limit) = Moment.start limit :=
    if_pos (Moment.before_start_iff.2 early)
  obtain ⟨count, same⟩ := runToMessage_eq_run registry (Moment.start limit) (h.fresh.length + 1) h
  refine ⟨count, ?_, ?_⟩
  · rw [← same]
    unfold receive
    dsimp only
    rewrite [bounded]
    cases (runToMessage registry (Moment.start limit) (h.fresh.length + 1) h).inbox with
    | nil => rfl
    | cons a rest => rfl
  · intro sound nothing
    have enough := sound.runToMessage_enough (within_start limit) registry (h.fresh.length + 1)
      (Nat.lt_succ_self _)
    rw [same] at enough
    exact enough.resolve_left (not_not.2 nothing)

/-- From some task on what comes is what a wait was handed and what comes after it. -/
theorem arrivals_of_received {clock clock' : Clock} {a : Arrival} (early : clock.now < limit)
    (read : h.receive registry clock limit = (some a, h', clock')) :
    ∃ ran, ∀ later, arrivals registry limit (ran + later) h =
      a.message :: arrivals registry limit later h' := by
  obtain ⟨ran, same, -⟩ := receive_eq registry early h
  rw [read] at same
  refine ⟨ran, fun later => ?_⟩
  cases inbox : (run registry (Moment.start limit) ran h).inbox with
  | nil =>
    rw [inbox] at same
    cases same
  | cons a rest =>
    rw [inbox] at same
    cases same
    have whole : run registry (Moment.start limit) ran h = unreadAfter [a]
        { run registry (Moment.start limit) ran h with inbox := rest } := by
      simp only [unreadAfter, List.singleton_append, ← inbox]
    rw [arrivals, run_add, whole, run_unreadAfter]
    rfl

/-- What a wait is handed came before the limit. -/
theorem Sound.received {clock clock' : Clock} {a : Arrival} (sound : h.Sound limit)
    (early : clock.now < limit) (read : h.receive registry clock limit = (some a, h', clock')) :
    h'.Sound limit ∧ clock.now ≤ clock'.now ∧ clock'.now < limit := by
  obtain ⟨ran, same, -⟩ := receive_eq registry early h
  have after := sound.run (within_start limit) registry ran
  rw [read] at same
  cases inbox : (Hub.run registry (Moment.start limit) ran h).inbox with
  | nil =>
    rw [inbox] at same
    cases same
  | cons a rest =>
    rw [inbox] at same
    cases same
    have inTime : a.moment.ms < limit := after.inbox a (by rw [inbox]; exact List.mem_cons_self)
    have now : (clock.waitFor a.moment).now = max clock.now a.moment.ms := Clock.now_waitFor _ _
    refine ⟨⟨after.isOpen, after.waiting, ?_⟩, by omega, by omega⟩
    intro b member
    exact after.inbox b (by rw [inbox]; exact List.mem_cons_of_mem a member)

/-- A wait is cut off at its limit, and only if nothing was to come. -/
theorem Sound.cutOff {clock clock' : Clock} (sound : h.Sound limit) (early : clock.now < limit)
    (read : h.receive registry clock limit = (none, h', clock')) :
    h'.Sound limit ∧ clock'.now = limit ∧
      (∀ count, arrivals registry limit count h = []) ∧
      ∀ count, arrivals registry limit count h' = [] := by
  obtain ⟨ran, same, idle⟩ := receive_eq registry early h
  have after := sound.run (within_start limit) registry ran
  rw [read] at same
  cases inbox : (Hub.run registry (Moment.start limit) ran h).inbox with
  | cons a rest =>
    rw [inbox] at same
    cases same
  | nil =>
    rw [inbox] at same
    cases same
    have still := idle sound inbox
    have now : (clock.waitUntil limit).now = max clock.now limit := Clock.now_waitUntil _ _
    have nothing : ∀ count, Hub.run registry (Moment.start limit) count
        (Hub.run registry (Moment.start limit) ran h) = Hub.run registry (Moment.start limit) ran h :=
      run_of_still still
    refine ⟨after, by omega, ?_, ?_⟩
    · intro count
      have least := arrivals_mono registry limit (Nat.le_add_left count ran) h
      rw [arrivals, arrivals, run_add, nothing, inbox] at least
      exact List.prefix_nil.1 least
    · intro count
      rw [arrivals, nothing, inbox]
      rfl

/-- On a channel with a request just published nothing has come yet. -/
theorem sound_publish (topic : String) (members : List RecipientId) (request : Request) :
    ((opened topic members).publish registry moment request).Sound limit := by
  rw [publish_eq request rfl]
  exact ⟨rfl, by simp [opened], by simp [opened]⟩

end Hub

end RollCall
