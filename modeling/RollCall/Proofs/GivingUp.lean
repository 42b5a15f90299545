import RollCall.Proofs.Aside
import RollCall.Proofs.LateRelays

set_option autoImplicit false

/-!
Streams that are given up. A stream that has not been polled does nothing, however long it is held.
One that is given up after some of its reports leaves a trace that tells of them and no more, and
from then on nobody is asked and nothing is written for its request.
-/
namespace RollCall

namespace BroadcastEvent

/-- The step of a recipient is closed if there was a report of it, and as the report says. -/
structure Marks (events : List BroadcastEvent) (q : RecipientId) (s : Step) : Prop where
  participant : s.participant = q.text
  delivered : s.isOpen = false ∧ s.success = some true ↔ ∃ text, .delivered q text ∈ events
  failed : s.isOpen = false ∧ s.success = some false ↔ ∃ e, .failed q e ∈ events
  unheard : s.isOpen = true ↔ q ∉ senders events

/-- A trace that tells of reports: the coordinator's step is open, and so are those without one. -/
structure LeavesOpen (events : List BroadcastEvent) (label : String) (rs : List RecipientId)
    (t : RequestTrace) : Prop where
  steps : ∃ s steps, t.steps = s :: steps ∧ s.participant = label ∧ s.isOpen = true ∧
    List.Forall₂ (Marks events) (distinct rs) steps

theorem delivered_mem_iff {rs : List Resolution} {q : RecipientId} {text : String} :
    .delivered q text ∈ rs.map ofResolution ↔ ⟨q, .ok text⟩ ∈ rs := by
  rw [List.mem_map]
  constructor
  · intro told
    obtain ⟨⟨sender, _ | said⟩, member, same⟩ := told
    · cases same
    · cases same
      exact member
  · intro member
    exact ⟨_, member, rfl⟩

theorem failed_mem_iff {rs : List Resolution} {q : RecipientId} {e : RemoteError} :
    .failed q e ∈ rs.map ofResolution ↔ ⟨q, .error e⟩ ∈ rs := by
  rw [List.mem_map]
  constructor
  · intro told
    obtain ⟨⟨sender, fault | _⟩, member, same⟩ := told
    · cases same
      exact member
    · cases same
  · intro member
    exact ⟨_, member, rfl⟩

theorem senders_ofResolution (rs : List Resolution) :
    senders (rs.map ofResolution) = rs.map Resolution.sender := by
  unfold senders
  rw [List.filterMap_map, ← List.filterMap_eq_map]
  exact List.filterMap_congr fun r _ => sender?_ofResolution r

end BroadcastEvent

namespace FanOut

variable {c : Coordinator} {Sound : Journal → Prop} {recipients : List RecipientId} {id : RequestId}
  {f : FanOut} {w : World} {j : Journal} {rs : List Resolution}

/-- A step beside its slot tells of the report that the slot holds. -/
theorem Noted.marks (noted : f.Noted rs) {may : Prop} (sure : ¬ may) {p : Slot} {s : RollCall.Step}
    {now : Timestamp} (member : p ∈ f.slots) (tallies : p.Tallies may s) (proper : s.Proper now) :
    BroadcastEvent.Marks (rs.map BroadcastEvent.ofResolution) p.recipient s := by
  have success : s.success = p.report.map Except.isOk := tallies.tells.kept sure
  have isOpen := proper.isOpen
  have report := noted.report p member
  refine ⟨tallies.participant, ?_, ?_, ?_⟩
  · simp only [BroadcastEvent.delivered_mem_iff, ← report]
    rw [isOpen, success]
    rcases p.report with _ | _ | text <;> simp [Except.isOk, Except.toBool]
  · simp only [BroadcastEvent.failed_mem_iff, ← report]
    rw [isOpen, success]
    rcases p.report with _ | e | _ <;> simp [Except.isOk, Except.toBool]
  · rw [BroadcastEvent.senders_ofResolution, isOpen, success, Option.isNone_map,
      Option.isNone_iff_eq_none]
    constructor
    · intro unheard heard
      obtain ⟨r, told, same⟩ := List.mem_map.1 heard
      obtain ⟨sender, result⟩ := r
      subst same
      rw [(report result).2 told] at unheard
      cases unheard
    · intro unheard
      cases told : p.report with
      | none => rfl
      | some result => exact absurd (List.mem_map_of_mem ((report result).1 told)) unheard

/-- What is stored of a fan-out under way tells of the reports that there have been. -/
theorem Underway.leavesOpen (underway : f.Underway c Sound recipients id rs j)
    (healthy : ¬ c.recorder.Falters Sound) :
    ∃ t, j.held id = some t ∧ (t.steps.map RollCall.Step.startTime).Pairwise (· ≤ ·) ∧
      BroadcastEvent.LeavesOpen (rs.map BroadcastEvent.ofResolution) c.label recipients t := by
  obtain ⟨rfl, listed, chronicle, noted, -⟩ := underway
  have proper := chronicle.orderly.proper
  have ordered := chronicle.ordered
  have tallied := chronicle.tallied
  cases held : j.held f.requestId with
  | none =>
    rw [Journal.steps_of_none held] at tallied
    cases tallied with
    | nothing lost _ _ => exact absurd lost healthy
  | some t =>
    have steps := Journal.steps_of_held held
    rw [steps] at tallied proper ordered
    refine ⟨t, rfl, ordered, ?_⟩
    generalize stored : t.steps = found at tallied proper
    cases tallied with
    | nothing lost _ _ => exact absurd lost healthy
    | @recorded s rest label _ tells slots =>
      have unclosed : s.success = none := tells.kept healthy
      have isOpen : s.isOpen = true := by
        rw [(proper s List.mem_cons_self).isOpen, unclosed]
        rfl
      refine ⟨s, rest, stored, chronicle.own ▸ label, isOpen, ?_⟩
      rw [← listed, List.forall₂_map_left_iff]
      have together := forall₂_and_right ((List.forall₂_and_left _ _).2 ⟨fun _ member => member, slots⟩)
        fun s member => proper s (List.mem_cons_of_mem _ member)
      refine together.imp ?_
      intro p s all
      obtain ⟨⟨member, tallies⟩, proper⟩ := all
      exact noted.marks healthy member tallies proper

/-- The reports of a fan-out under way are of different recipients. -/
theorem Underway.senders (underway : f.Underway c Sound recipients id rs j) :
    (BroadcastEvent.senders (rs.map BroadcastEvent.ofResolution)).Nodup ∧
      ∀ q ∈ BroadcastEvent.senders (rs.map BroadcastEvent.ofResolution), q ∈ recipients := by
  rw [BroadcastEvent.senders_ofResolution]
  refine ⟨underway.noted.once, ?_⟩
  intro q told
  obtain ⟨r, member, rfl⟩ := List.mem_map.1 told
  exact (mem_distinct _ _).1 (underway.owed r member)

/-- A report is an event, and the fan-out goes on. -/
theorem Underway.nextEvent (underway : f.Underway c Sound recipients id rs w.journal)
    (retains : c.recorder.Retains Sound) {e : BroadcastEvent}
    (told : (f.nextEvent w).1 = some e) (report : e.sender? ≠ none) :
    ∃ f' r, (f.nextEvent w).2.1 = .running f' ∧ e = BroadcastEvent.ofResolution r ∧
      f'.Underway c Sound recipients id (rs ++ [r]) (f.nextEvent w).2.2.journal := by
  obtain ⟨log, run⟩ := next_run f w
  rcases advanced : f.next w with ⟨_ | r, f', w'⟩
  · rw [nextEvent_of_last advanced] at told
    have summary := summary_of_head? told
    obtain ⟨-, -, rfl⟩ := BroadcastEvent.mem_summary (f := f') (e := e) (by rw [summary]; simp)
    exact absurd rfl report
  · rw [advanced] at run
    rw [nextEvent_of_report advanced] at told ⊢
    exact ⟨f', r, rfl, (Option.some.inj told).symm, underway.run retains run⟩

/-- What goes on on the channel does not change what has been reported. -/
theorem Underway.withChannel (underway : f.Underway c Sound recipients id rs j)
    (channel : Option Channel) :
    Underway c Sound recipients id rs { f with channel := channel } j := by
  obtain ⟨rfl, listed, chronicle, noted, owed⟩ := underway
  exact ⟨rfl, listed, chronicle.spared (.refl Sound _ j) channel f.notes,
    ⟨noted.once, noted.owed, noted.report⟩, owed⟩

end FanOut

def BroadcastStream.channel? (s : BroadcastStream) : Option Channel :=
  match s.stage with
  | .running f => f.channel
  | _ => none

/-- A stream that is given up on a network leaves its channel closed. -/
theorem BroadcastStream.close_mem_abandon {s : BroadcastStream} {w : World} {n : Network} {h : Hub}
    (network : w.transport = .network n) (channel : s.channel? = some (.hub h)) :
    h.close ∈ (s.abandon w).transport.released := by
  unfold channel? at channel
  cases stage : s.stage with
  | running f =>
    rw [stage] at channel
    dsimp only at channel
    simp only [abandon, stage, FanOut.releaseChannel, channel]
    show h.close ∈ (w.transport.release (.hub h)).released
    rw [network]
    exact List.mem_cons_self
  | idle c recipients request deadline =>
    rw [stage] at channel
    cases channel
  | ended =>
    rw [stage] at channel
    cases channel

namespace Session

def Act.heard (name : String) (s : Session) : Act → List (Option BroadcastEvent)
  | .nextEvent polled => if polled = name then [(s.nextEvent polled).1] else []
  | _ => []

/-- What the polls of the stream under a name bring while a session goes on. -/
def polls (name : String) : List Act → Session → List (Option BroadcastEvent)
  | [], _ => []
  | a :: rest, s => a.heard name s ++ polls name rest (s.act a)

def asked (s : Session) : Session :=
  { s with world := { s.world with requestCount := s.world.requestCount + 1 } }

variable {Sound : Journal → Prop} {name : String} {id : RequestId} {recipients : List RecipientId}
  {payload : Json} {deadline : Nat} {s : Session} {a : Act} {acts : List Act}
  {events : List BroadcastEvent}

/-- Giving a stream up takes no identifier. -/
theorem abandoned_newRequest (name : String) (s : Session) (payload : Json) :
    s.abandoned name (s.world.newRequest payload).2 =
        { s.abandoned name s.world with
          requestCount := (s.abandoned name s.world).requestCount + 1 } ∧
      (s.abandoned name s.world).requestCount = s.world.requestCount := by
  unfold abandoned
  cases s.stream? name with
  | none => exact ⟨rfl, rfl⟩
  | some stream =>
    refine ⟨?_, stream.requestCount_abandon s.world⟩
    dsimp only [BroadcastStream.abandon]
    cases stream.stage with
    | idle c rs request wait => rfl
    | running f =>
      dsimp only [FanOut.releaseChannel]
      cases f.channel <;> rfl
    | ended => rfl

/-- A new stream takes the place of one that is given up, and takes an identifier. -/
theorem openStream_accepted (name : String) (s : Session)
    (accepted : broadcastRefusal? recipients payload deadline = none) :
    (s.act (.openStream name recipients payload deadline)).stream? name =
        some ⟨RequestId.generated s.world.requestCount, .idle s.office.coordinator
          (distinct recipients) (s.world.newRequest payload).1 deadline⟩ ∧
      (s.act (.openStream name recipients payload deadline)).forget name =
        (s.dropStream name).asked ∧
      (s.act (.openStream name recipients payload deadline)).world =
        (s.dropStream name).asked.world ∧
      (s.act (.openStream name recipients payload deadline)).world.requestCount =
        s.world.requestCount + 1 := by
  obtain ⟨world, counted⟩ := abandoned_newRequest name s payload
  rw [act_eq_put]
  simp only [effect, Coordinator.stream, accepted, begun, put, world]
  refine ⟨List.lookup_cons_self, ?_, rfl, congrArg (· + 1) counted⟩
  exact congrArg (fun streams => { (s.dropStream name).asked with streams := streams })
    (without_cons_self name _ s.streams)

/--
A session that is aside from a request but for the stream under a name, which is the coordinator's
own and about nothing else.
-/
structure Amid (name : String) (id : RequestId) (s : Session) : Prop where
  aside : s.Aside (· ≠ name) id
  own : ∀ t, s.stream? name = some t → t.stage.Apart s.office.coordinator (· ≠ id)

/-- A poll of the stream leaves alone all other requests. -/
theorem Amid.poll (amid : s.Amid name id) (retains : s.office.recorder.Retains Sound) :
    (s.act (.nextEvent name)).Amid name id ∧
      s.world.journal.Bypasses Sound (· ≠ id) (s.act (.nextEvent name)).world.journal := by
  simp only [act, nextEvent]
  cases named : s.stream? name with
  | none => exact ⟨amid, .refl Sound (· ≠ id) _⟩
  | some t =>
    obtain ⟨still, bypasses⟩ := t.use_bypasses retains (amid.own t named) s.world .poll
    have streams : ∀ e ∈ replace name (some (t.use s.world .poll).1) s.streams, e.1 ≠ name →
        e.2.stage.Apart s.office.coordinator (· = id) ∧ e.2.stage.Clear id :=
      forall_mem_replace (P := fun other (t : BroadcastStream) => other ≠ name →
        t.stage.Apart s.office.coordinator (· = id) ∧ t.stage.Clear id) amid.aside.streams
        fun _ _ other => absurd rfl other
    refine ⟨⟨⟨streams, amid.aside.channels,
      amid.aside.released_of_later (t.later_use s.world .poll)⟩, ?_⟩, bypasses⟩
    intro t' found
    rw [← Option.some.inj (List.lookup_cons_self.symm.trans found)]
    exact still

/-- What is not done with the stream leaves its request alone. -/
theorem Amid.act (amid : s.Amid name id) (retains : s.office.recorder.Retains Sound)
    (elsewhere : a.Aside (· ≠ name) id s) :
    (s.act a).Amid name id ∧ s.world.journal.Bypasses Sound (· = id) (s.act a).world.journal := by
  obtain ⟨aside, bypasses⟩ := amid.aside.act retains elsewhere
  have apart : a.stream? ≠ some name := fun same => elsewhere.stream name same rfl
  refine ⟨⟨aside, ?_⟩, bypasses⟩
  intro t found
  rw [office_act]
  rcases stream?_act (s := s) apart with same | settled
  · exact amid.own t (same.symm.trans found)
  · rw [settled] at found
    obtain ⟨t₀, before, rfl⟩ := Option.map_eq_some_iff.1 found
    exact (amid.own t₀ before).settle _ _ _

theorem Amid.step (amid : s.Amid name id) (retains : s.office.recorder.Retains Sound)
    (polled : a.stream? = some name → a = .nextEvent name) (foreign : Foreign id (a :: acts) s) :
    (s.act a).Amid name id ∧
      s.world.journal.Bypasses Sound (fun _ => False) (s.act a).world.journal := by
  by_cases own : a.stream? = some name
  · obtain rfl := polled own
    obtain ⟨still, bypasses⟩ := amid.poll retains
    exact ⟨still, bypasses.weaken⟩
  · obtain ⟨still, bypasses⟩ := amid.act retains
      (foreign.head fun other named same => own (same ▸ named))
    exact ⟨still, bypasses.weaken⟩

theorem Amid.run (amid : s.Amid name id) (retains : s.office.recorder.Retains Sound)
    (polled : ∀ a ∈ acts, a.stream? = some name → a = .nextEvent name)
    (foreign : Foreign id acts s) :
    (acts.foldl Session.act s).Amid name id ∧
      s.world.journal.Bypasses Sound (fun _ => False) (acts.foldl Session.act s).world.journal := by
  induction acts generalizing s with
  | nil => exact ⟨amid, .refl Sound _ _⟩
  | cons a rest ih =>
    obtain ⟨still, first⟩ := amid.step retains (polled a List.mem_cons_self) foreign
    obtain ⟨last, later⟩ := ih still (office_act s a ▸ retains)
      (fun b member => polled b (List.mem_cons_of_mem a member)) foreign.tail
    exact ⟨last, first.trans later⟩

/-- How far the stream under a name has come, with the events that it has brought. -/
inductive Midway (Sound : Journal → Prop) (name : String) (id : RequestId)
    (recipients : List RecipientId) (s : Session) : List BroadcastEvent → Prop
  | waiting {t : BroadcastStream} {request : Request} {deadline : Nat}
    (named : s.stream? name = some t)
    (idle : t.stage = .idle s.office.coordinator (distinct recipients) request deadline)
    (own : request.requestId = id) (fresh : s.world.journal.held id = none) :
    Midway Sound name id recipients s []
  | running {t : BroadcastStream} {f : FanOut} {rs : List Resolution}
    (named : s.stream? name = some t) (stage : t.stage = .running f)
    (underway : f.Underway s.office.coordinator Sound recipients id rs s.world.journal) :
    Midway Sound name id recipients s (rs.map BroadcastEvent.ofResolution)

/-- What is not done with the stream does not bring it any further. -/
theorem Midway.act (midway : Midway Sound name id recipients s events)
    (elsewhere : a.stream? ≠ some name)
    (spares : s.world.journal.Spares Sound id (s.act a).world.journal) :
    Midway Sound name id recipients (s.act a) events := by
  have same := stream?_act (s := s) elsewhere
  cases midway with
  | @waiting t request deadline named idle own fresh =>
    have still : (s.act a).stream? name = some t := by
      rw [named] at same
      rcases same with same | settled
      · exact same
      · rw [settled, Option.map_some, BroadcastStream.settle, idle]
    exact .waiting still (office_act s a ▸ idle) own (spares.held.trans fresh)
  | @running t f rs named stage underway =>
    rw [named] at same
    have later := office_act s a ▸ underway.spared spares
    rcases same with same | settled
    · exact .running same stage later
    · rw [Option.map_some] at settled
      refine .running settled ?_ (later.withChannel (f.channel.map fun c =>
        c.settle s.world.transport.registry s.world.clock.moment s.world.patience))
      rw [BroadcastStream.settle, stage]

/-- A poll that brings a report brings the stream one report further. -/
theorem Midway.poll (midway : Midway Sound name id recipients s events)
    (retains : s.office.recorder.Retains Sound) (inOrder : s.world.journal.InOrder Sound)
    (called : id.isBlank = false)
    (few : s.world.journal.stepCount + ((distinct recipients).length + 1) ≤ twoTo 128)
    {e : BroadcastEvent} (told : (s.nextEvent name).1 = some e) (report : e.sender? ≠ none) :
    Midway Sound name id recipients (s.act (.nextEvent name)) (events ++ [e]) := by
  have polled {t : BroadcastStream} {f : FanOut} {w : World} {rs : List Resolution}
      (named : s.stream? name = some t)
      (underway : f.Underway s.office.coordinator Sound recipients id rs w.journal)
      (same : t.next s.world = BroadcastStream.next ⟨t.requestId, .running f⟩ w) :
      Midway Sound name id recipients (s.act (.nextEvent name))
        (rs.map BroadcastEvent.ofResolution ++ [e]) := by
    simp only [nextEvent, named] at told
    rw [same] at told
    obtain ⟨f', r, stage, rfl, later⟩ := underway.nextEvent retains told report
    rw [← List.map_singleton, ← List.map_append]
    simp only [Session.act, nextEvent, named]
    refine .running (t := (t.next s.world).2.1) (f := f') List.lookup_cons_self ?_ ?_
    · rw [same]
      exact stage
    · rw [same]
      exact later
  cases midway with
  | @waiting t request deadline named idle own fresh =>
    have begun := FanOut.underway_start (c := s.office.coordinator) retains request (own ▸ called)
      deadline inOrder.sound inOrder.forward (own ▸ fresh) few
    rw [own] at begun
    apply polled named begun
    obtain ⟨requestId, stage⟩ := t
    subst idle
    exact BroadcastStream.next_idle requestId _ _ request deadline s.world
  | @running t f rs named stage underway =>
    refine polled named underway ?_
    obtain ⟨requestId, _⟩ := t
    subst stage
    rfl

/-- While a session goes on the stream comes as far as its polls bring it. -/
theorem Midway.run {told : List BroadcastEvent} (midway : Midway Sound name id recipients s events)
    (amid : s.Amid name id) (retains : s.office.recorder.Retains Sound)
    (inOrder : s.world.journal.InOrder Sound) (called : id.isBlank = false)
    (polled : ∀ a ∈ acts, a.stream? = some name → a = .nextEvent name) (foreign : Foreign id acts s)
    (few : (acts.foldl Session.act s).world.journal.stepCount + ((distinct recipients).length + 1) ≤
      twoTo 128)
    (heard : polls name acts s = told.map some) (reports : ∀ e ∈ told, e.sender? ≠ none) :
    Midway Sound name id recipients (acts.foldl Session.act s) (events ++ told) := by
  induction acts generalizing s events told with
  | nil =>
    obtain rfl := List.map_eq_nil_iff.1 heard.symm
    rw [List.append_nil]
    exact midway
  | cons a rest ih =>
    have before := polled a List.mem_cons_self
    have after : ∀ b ∈ rest, b.stream? = some name → b = .nextEvent name :=
      fun b member => polled b (List.mem_cons_of_mem a member)
    obtain ⟨still, bypasses⟩ := amid.step retains before foreign
    have retainsNow : (s.act a).office.recorder.Retains Sound := office_act s a ▸ retains
    obtain ⟨-, later⟩ := still.run retainsNow after foreign.tail
    have fewNow : (s.act a).world.journal.stepCount + ((distinct recipients).length + 1) ≤
        twoTo 128 := Nat.le_trans (Nat.add_le_add_right later.counted _) few
    have inOrderNow := (bypasses.spares (Nat.le_trans (Nat.le_add_right _ _) fewNow) inOrder).1
    rw [polls] at heard
    by_cases own : a.stream? = some name
    · obtain rfl := before own
      rw [Act.heard, if_pos rfl] at heard
      cases told with
      | nil => cases heard
      | cons e told =>
        obtain ⟨first, others⟩ := List.cons.inj heard
        have next := midway.poll retains inOrder called
          (Nat.le_trans (Nat.add_le_add_right bypasses.counted _) fewNow) first
          (reports e List.mem_cons_self)
        have last := ih next still (office_act s _ ▸ retains) inOrderNow after foreign.tail few others
          fun e member => reports e (List.mem_cons_of_mem _ member)
        rwa [List.append_assoc] at last
    · have silent : a.heard name s = [] := by
        cases a with
        | nextEvent other =>
          rw [Act.heard, if_neg fun same => own (congrArg some same)]
        | _ => rfl
      rw [silent, List.nil_append] at heard
      obtain ⟨-, spares⟩ := amid.act retains (foreign.head fun other named same => own (same ▸ named))
      have next := midway.act own
        ((spares.spares (Nat.le_trans (Nat.le_add_right _ _) fewNow) inOrder).2 id rfl)
      exact ih next still (office_act s a ▸ retains) inOrderNow after foreign.tail few heard reports

theorem office_run (acts : List Act) (s : Session) : (acts.foldl act s).office = s.office := by
  induction acts generalizing s with
  | nil => rfl
  | cons a rest ih => exact (ih (s.act a)).trans (office_act s a)

/-- Acts before an identifier is given out are not about it. -/
theorem foreign_of_earlier {n : Nat} (request : ∀ a ∈ acts, a.request? ≠ some (.generated n))
    (earlier : (acts.foldl act s).world.requestCount ≤ n) (few : n < twoTo 128) :
    Foreign (.generated n) acts s := by
  refine ⟨request, ?_⟩
  intro m _ taken same
  have less := Nat.lt_of_lt_of_le taken earlier
  exact absurd (RequestId.generated_inj (Nat.lt_trans less few) few same) (Nat.ne_of_lt less)

/-- Nor are those after it. -/
theorem foreign_of_later {n : Nat} (request : ∀ a ∈ acts, a.request? ≠ some (.generated n))
    (later : n < s.world.requestCount)
    (few : (acts.foldl act s).world.requestCount ≤ twoTo 128) : Foreign (.generated n) acts s := by
  refine ⟨request, ?_⟩
  intro m least taken same
  have more := Nat.lt_of_lt_of_le later least
  have fewer := Nat.lt_of_lt_of_le taken few
  exact absurd (RequestId.generated_inj fewer (Nat.lt_trans more fewer) same) (Nat.ne_of_gt more)

/-- When the stream is given up everything is aside from its request. -/
theorem Amid.dropStream (amid : s.Amid name id) :
    (s.dropStream name).Aside (fun _ => True) id ∧ (s.dropStream name).stream? name = none := by
  refine ⟨⟨?_, amid.aside.channels, ?_⟩, ?_⟩
  · intro e kept _
    obtain ⟨listed, other⟩ := List.mem_filter.1 kept
    exact amid.aside.streams e listed (by simpa using other)
  · exact amid.aside.released_of_later (later_abandoned name s s.world)
  · refine List.lookup_eq_none_iff.2 fun e kept => ?_
    have other : e.1 ≠ name := by simpa using (List.mem_filter.1 kept).2
    simpa using Ne.symm other

/--
What is left of a stream that is given up after some reports: `t` is the session before, `u` the
session after it, and `v` the session when other things have been done since.
-/
structure GivenUp (name : String) (id : RequestId) (recipients : List RecipientId)
    (events : List BroadcastEvent) (since : List Act) (t u v : Session) : Prop where
  /-- Its channel is given back, and no other. -/
  released : u.stream? name = none ∧ ∀ n, t.world.HasOpen
    (n + ((t.stream? name).elim false BroadcastStream.holds).toNat) → u.world.HasOpen n
  /-- The reports are of so many recipients. -/
  senders : (BroadcastEvent.senders events).Nodup ∧
    (BroadcastEvent.senders events).length = events.length ∧
    ∀ q ∈ BroadcastEvent.senders events, q ∈ recipients
  trace : BroadcastEvent.LeavesOpen events u.office.coordinator.label recipients
    (u.office.coordinator.trace id u.world).1
  unwritten : v.world.journal.held id = u.world.journal.held id ∧
    (v.office.coordinator.trace id v.world).1 = (u.office.coordinator.trace id u.world).1
  /-- On a network the channel is closed, with its tasks ended, and so it stays. -/
  closed : ∀ stream n h, t.stream? name = some stream → t.world.transport = .network n →
    stream.channel? = some (.hub h) →
      h.close ∈ u.world.transport.released ∧ h.close ∈ v.world.transport.released
  /-- Nothing is delivered: no channel has a task of the request, given back or not. -/
  undelivered : (∀ h ∈ v.world.transport.released, h.Clear id) ∧
    (∀ e ∈ v.channels, e.2.Clear id) ∧ ∀ e ∈ v.streams, e.2.stage.Clear id
  /-- Nobody is asked: it makes no difference what anybody would do about the request. -/
  unasked : ∀ change, ShowsOnlyOn id change →
    (since.map (Act.altered change)).foldl act (u.altered change) = v.altered change

/-- A stream that has just been opened, in a session that is aside from its request. -/
theorem Aside.amid_openStream
    (aside : s.Aside (fun _ => True) (.generated s.world.requestCount))
    (accepted : broadcastRefusal? recipients payload deadline = none) :
    (s.act (.openStream name recipients payload deadline)).Amid name
        (.generated s.world.requestCount) ∧
      (s.act (.openStream name recipients payload deadline)).world.journal = s.world.journal := by
  have around : s.Aside (· ≠ name) (.generated s.world.requestCount) :=
    ⟨fun e member _ => aside.streams e member trivial, aside.channels, aside.released⟩
  obtain ⟨named, -, world, -⟩ := openStream_accepted name s accepted
  have same := (congrArg World.journal world).trans (journal_abandoned name s s.world)
  have spares : (s.effect (.openStream name recipients payload deadline)).Spares (fun _ => True)
      (· ≠ name) (.generated s.world.requestCount) s :=
    spares_openStream fun _ other => absurd rfl other
  have opened := around.put (s.follows_effect (.openStream name recipients payload deadline)) spares
  rw [← act_eq_put] at opened
  refine ⟨⟨opened.1, ?_⟩, same⟩
  intro t found
  rw [named] at found
  cases found
  exact ⟨congrArg Office.coordinator (office_act s _).symm, not_not.2 rfl⟩

/-- What is left of a stream under way, whatever is done for other requests since. -/
theorem Amid.givenUp {t v : Session} {since : List Act} (amid : t.Amid name id)
    (retains : t.office.recorder.Retains Sound) (healthy : ¬ t.office.recorder.Falters Sound)
    (midway : Midway Sound name id recipients t events) (some : events ≠ [])
    (inOrder : t.world.journal.InOrder Sound) (foreign : Foreign id since (t.dropStream name))
    (wentOn : since.foldl Session.act (t.dropStream name) = v)
    (few : v.world.journal.stepCount ≤ twoTo 128) :
    GivenUp name id recipients events since t (t.dropStream name) v := by
  obtain ⟨aside, gone⟩ := amid.dropStream
  have journal : (t.dropStream name).world.journal = t.world.journal :=
    journal_abandoned name t t.world
  have office : v.office = t.office := wentOn ▸ office_run since _
  obtain ⟨last, bypasses⟩ := aside.run retains (fun _ _ _ _ => trivial) foreign
  rw [wentOn] at last
  rw [wentOn, journal] at bypasses
  obtain ⟨inOrderLater, spares⟩ := bypasses.spares few inOrder
  cases midway with
  | waiting => exact absurd rfl some
  | @running _ f rs found stage underway =>
    obtain ⟨trace, held, ordered, tells⟩ := underway.leavesOpen healthy
    obtain ⟨once, listed⟩ := underway.senders
    have heldLater := (spares id rfl).held.trans held
    have read : (t.office.coordinator.trace id (t.dropStream name).world).1 = trace :=
      Recorder.trace_of_held retains healthy (journal ▸ inOrder.sound) (journal ▸ held) ordered
    have readLater : (t.office.coordinator.trace id v.world).1 = trace :=
      Recorder.trace_of_held retains healthy inOrderLater.sound heldLater ordered
    refine ⟨⟨gone, fun n opened => hasOpen_dropStream name t opened⟩, ⟨once, ?_, listed⟩,
      read.symm ▸ tells, ⟨?_, ?_⟩, ?_,
      ⟨last.released, last.channels, fun e member => (last.streams e member trivial).2⟩, ?_⟩
    · rw [BroadcastEvent.senders_ofResolution, List.length_map, List.length_map]
    · rw [heldLater, journal, held]
    · rw [office]
      exact readLater.trans read.symm
    · intro stream n h named network channel
      have given : h.close ∈ (t.dropStream name).world.transport.released := by
        show h.close ∈ (t.abandoned name t.world).transport.released
        rw [abandoned, named]
        exact stream.close_mem_abandon network channel
      exact ⟨given, wentOn ▸ close_mem_run given since⟩
    · intro change shows
      rw [← wentOn]
      exact aside.altered_run retains shows foreign

/--
A stream that is not polled makes no difference, however long it is held: no transport and no store
is used for it. One that is given up after some reports, on a healthy store, leaves its channel
closed and a trace in which the steps of those who reported are closed, as the reports say, and all
others are open. Whatever is done from then on, nothing more is written for its request, no message
of it is delivered and nobody is asked for it.
-/
theorem stream_given_up (o : Office) {Sound : Journal → Prop} (retains : o.recorder.Retains Sound)
    (healthy : ¬ o.recorder.Falters Sound) (name : String) (recipients : List RecipientId)
    (payload : Json) (deadline : Nat)
    (accepted : broadcastRefusal? recipients payload deadline = none) :
    (∀ (s : Session) (acts : List Act), (∀ a ∈ acts, a.stream? ≠ some name) →
      (acts.foldl act (s.act (.openStream name recipients payload deadline))).forget name =
        acts.foldl act (s.dropStream name).asked) ∧
    ∀ (w : World) (before during since : List Act) (events : List BroadcastEvent) (s t u v : Session),
      before.foldl act (opened o w) = s →
      during.foldl act (s.act (.openStream name recipients payload deadline)) = t →
      t.act (.dropStream name) = u → since.foldl act u = v →
      w.journal.InOrder Sound →
      w.journal.held (.generated s.world.requestCount) = none →
      (∀ h ∈ w.transport.released, h.Clear (.generated s.world.requestCount)) →
      v.world.requestCount ≤ twoTo 128 →
      v.world.journal.stepCount + ((distinct recipients).length + 1) ≤ twoTo 128 →
      (∀ a ∈ before ++ during ++ since, a.request? ≠ some (.generated s.world.requestCount)) →
      (∀ a ∈ during, a.stream? = some name → a = .nextEvent name) →
      polls name during (s.act (.openStream name recipients payload deadline)) = events.map some →
      (∀ e ∈ events, e.sender? ≠ none) → events ≠ [] →
      GivenUp name (.generated s.world.requestCount) recipients events since t u v := by
  refine ⟨?_, ?_⟩
  · intro s acts elsewhere
    rw [forget_run elsewhere, (openStream_accepted name s accepted).2.1]
  · intro w before during since events s t u v started polledOn dropped wentOn inOrder fresh clear
      numbered few foreign polled heard reports some
    have office : s.office = o := started ▸ office_run before _
    obtain ⟨named, -, -, counted⟩ := openStream_accepted name s accepted
    -- the identifiers before, during and after are others than that of the stream
    have last : s.world.requestCount + 1 ≤ t.world.requestCount :=
      counted ▸ polledOn ▸ requestCount_run during _
    have later : t.world.requestCount ≤ u.world.requestCount := dropped ▸ requestCount_act t _
    have latest : u.world.requestCount ≤ v.world.requestCount := wentOn ▸ requestCount_run since u
    have first : Foreign (.generated s.world.requestCount) before (opened o w) := by
      refine foreign_of_earlier (fun a member => foreign a (by simp [member])) ?_ (by omega)
      rw [started]
    have second : Foreign (.generated s.world.requestCount) during
        (s.act (.openStream name recipients payload deadline)) := by
      refine foreign_of_later (fun a member => foreign a (by simp [member])) (by omega) ?_
      rw [polledOn]
      omega
    have third : Foreign (.generated s.world.requestCount) since u := by
      refine foreign_of_later (fun a member => foreign a (by simp [member])) (by omega) ?_
      rw [wentOn]
      exact numbered
    -- before the stream is opened nothing in the session has anything to do with its request
    have nothing : (opened o w).Aside (fun _ => True) (.generated s.world.requestCount) :=
      ⟨fun _ member => absurd member List.not_mem_nil, fun _ member => absurd member List.not_mem_nil,
        clear⟩
    obtain ⟨aside, bypassed⟩ := nothing.run retains (fun _ _ _ _ => trivial) first
    rw [started] at aside bypassed
    obtain ⟨amid, same⟩ := aside.amid_openStream accepted
    have own : (s.act (.openStream name recipients payload deadline)).office = o :=
      (office_act s _).trans office
    have ownRetains : (s.act (.openStream name recipients payload deadline)).office.recorder.Retains
        Sound := own ▸ retains
    obtain ⟨amidLater, passed⟩ := amid.run ownRetains polled second
    rw [polledOn] at amidLater passed
    have officeT : t.office = o := polledOn ▸ (office_run during _).trans own
    subst dropped
    -- as many steps as there are in the end there have never been before
    have counted : t.world.journal.stepCount ≤ v.world.journal.stepCount := by
      have retainsT : t.office.recorder.Retains Sound := officeT ▸ retains
      obtain ⟨-, spared⟩ := amidLater.dropStream.1.run retainsT (fun _ _ _ _ => trivial) third
      rw [show (t.dropStream name).world.journal = t.world.journal from
        journal_abandoned name t t.world] at spared
      exact wentOn ▸ spared.counted
    have countedS := same ▸ passed.counted
    obtain ⟨inOrderS, spares⟩ := bypassed.spares (by omega) inOrder
    obtain ⟨inOrderT, -⟩ := passed.spares (by omega) (same ▸ inOrderS)
    have begun : Midway Sound name (.generated s.world.requestCount) recipients
        (s.act (.openStream name recipients payload deadline)) [] :=
      .waiting named (by rw [own, office]) rfl (same ▸ (spares _ rfl).held.trans fresh)
    have midway := begun.run amid ownRetains (same ▸ inOrderS) (RequestId.isBlank_generated _)
      polled second (polledOn ▸ Nat.le_trans (Nat.add_le_add_right counted _) few) heard reports
    rw [polledOn, List.nil_append] at midway
    exact amidLater.givenUp (officeT ▸ retains) (officeT ▸ healthy) midway some inOrderT third wentOn
      (by omega)

/-- Of two recipients one has answered; a broadcast and a wait follow. -/
theorem stream_given_up_rehearsal :
    ∃ t u v : Session, t.act (.dropStream "x") = u ∧
      [.sleep 100, .broadcast [⟨"a"⟩, ⟨"b"⟩] (.string "hi") 50].foldl act u = v ∧
      v.world.requestCount = 2 ∧
      GivenUp "x" (.generated 0) [⟨"a"⟩, ⟨"b"⟩, ⟨"a"⟩] [.delivered ⟨"a"⟩ "part"]
        [.sleep 100, .broadcast [⟨"a"⟩, ⟨"b"⟩] (.string "hi") 50] t u v := by
  have accepted : broadcastRefusal? [⟨"a"⟩, ⟨"b"⟩, ⟨"a"⟩] (.string "hi") 50 = none := by decide
  have healthy : (Office.recorder ⟨Settings.standard, by decide⟩).Healthy (World.duet []).journal :=
    ⟨Recorder.lasting_still (t := ⟨0, 0⟩) (fun _ => rfl) (by decide) (by decide) (.memory _ _)
      (show MemoryStore.refusal? _ _ = none by decide), fun _ member => absurd member List.not_mem_nil⟩
  have inOrder : (World.duet []).journal.InOrder
      (Office.recorder ⟨Settings.standard, by decide⟩).Healthy :=
    ⟨healthy, World.forward_rehearsal [],
      fun id => Journal.orderly_of_none (World.held_rehearsal [] id)⟩
  obtain ⟨-, givenUp⟩ := stream_given_up ⟨Settings.standard, by decide⟩
    (Recorder.retains_healthy _) (Recorder.not_falters_healthy _) "x" [⟨"a"⟩, ⟨"b"⟩, ⟨"a"⟩]
    (.string "hi") 50 accepted
  refine ⟨_, _, _, rfl, rfl, ?_, givenUp (World.duet []) [] [.nextEvent "x"]
    [.sleep 100, .broadcast [⟨"a"⟩, ⟨"b"⟩] (.string "hi") 50] [.delivered ⟨"a"⟩ "part"] _ _ _ _ rfl rfl
    rfl rfl inOrder (World.held_rehearsal [] _) (fun _ given => absurd given List.not_mem_nil)
    ?_ ?_ ?_ ?_ ?_ ?_ ?_⟩
  · decide +kernel
  · decide +kernel
  · decide +kernel
  · intro a member
    simp only [List.nil_append, List.mem_cons, List.cons_append, List.not_mem_nil, or_false] at member
    rcases member with rfl | rfl | rfl <;> simp [Act.request?]
  · intro a member _
    exact List.mem_singleton.1 member
  · decide +kernel
  · simp [BroadcastEvent.sender?]
  · simp

end Session

end RollCall
