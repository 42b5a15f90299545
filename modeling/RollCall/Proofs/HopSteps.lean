import RollCall.Proofs.Account
import RollCall.Proofs.Mirror

set_option autoImplicit false

/-!
The trace of a relay over a healthy store is the list of what was seen: the coordinator's step and
then, for every message in the order of arrival, a closed step that begins where the one before it
ended, or later.
-/
namespace RollCall

def Step.Precedes (s t : Step) : Prop := ∀ ended ∈ s.endTime, ended ≤ t.startTime

theorem Timestamp.latest_le {a b limit : Timestamp} (first : a ≤ limit) (second : b ≤ limit) :
    latest a b ≤ limit := by
  unfold latest
  split
  · exact first
  · exact second

/-- The steps of a relay that is under way, of which the last message was seen at some instant. -/
structure Procession (label : String) (own : Option StepId) (since : Timestamp)
    (observed : List Reply) (s : Step) (hops : List Step) : Prop where
  label : s.participant = label
  own : own = some s.stepId
  unclosed : s.success = none
  begun : s.startTime ≤ since
  each : List.Forall₂ Reply.Leaves observed hops
  inTurn : hops.Pairwise Step.Precedes
  later : ∀ h ∈ hops, s.startTime ≤ h.startTime
  ended : ∀ h ∈ hops, ∀ t ∈ h.endTime, t ≤ since

namespace Procession

variable {label : String} {own : Option StepId} {since now : Timestamp} {observed : List Reply}
  {s : Step} {hops : List Step}

theorem start {s : Step} (named : s.participant = label) (unclosed : s.success = none)
    (begun : s.startTime ≤ since) : Procession label (some s.stepId) since [] s [] := by
  refine ⟨named, rfl, unclosed, begun, List.Forall₂.nil, List.Pairwise.nil, ?_, ?_⟩
  · simp
  · simp

/-- One more message: its step begins when the last one was seen, and it ends before now. -/
theorem join (procession : Procession label own since observed s hops) {h : Reply} {t : Step}
    (leaves : h.Leaves t) (begins : t.startTime = since) (ends : ∀ e ∈ t.endTime, e ≤ now)
    (onward : since ≤ now) : Procession label own now (observed ++ [h]) s (hops ++ [t]) := by
  obtain ⟨named, known, unclosed, begun, each, inTurn, later, ended⟩ := procession
  refine ⟨named, known, unclosed, Timestamp.le_trans begun onward,
    List.rel_append each (List.Forall₂.cons leaves List.Forall₂.nil), ?_, ?_, ?_⟩
  · rw [List.pairwise_append]
    refine ⟨inTurn, List.pairwise_singleton _ _, ?_⟩
    intro a earlier b last e closed
    rw [List.mem_singleton.1 last, begins]
    exact ended a earlier e closed
  · intro a member
    rcases List.mem_append.1 member with earlier | last
    · exact later a earlier
    · rw [List.mem_singleton.1 last, begins]
      exact begun
  · intro a member e closed
    rcases List.mem_append.1 member with earlier | last
    · exact Timestamp.le_trans (ended a earlier e closed) onward
    · rw [List.mem_singleton.1 last] at closed
      exact ends e closed

/-- Steps that follow one another are in order of their start. -/
theorem ordered (procession : Procession label own since observed s hops)
    (proper : ∀ h ∈ hops, h.Proper now) :
    ((s :: hops).map Step.startTime).Pairwise (· ≤ ·) := by
  rw [List.pairwise_map, List.pairwise_cons]
  refine ⟨procession.later, procession.inTurn.imp_of_mem ?_⟩
  intro a b earlier _ precedes
  obtain ⟨h, -, leaves⟩ := exists_of_forall₂ procession.each earlier
  have closed := leaves.closed
  rcases ended : a.endTime with _ | e
  · rw [Step.isOpen, ended] at closed
    cases closed
  · exact Timestamp.le_trans ((proper a earlier).ends e ended) (precedes e ended)

end Procession

/-- What a healthy store holds of a relay that is under way. -/
structure Escorts (c : Coordinator) (Sound : Journal → Prop) (id : RequestId)
    (own : Option StepId) (since : Timestamp) (observed : List Reply) (j : Journal) : Prop where
  sound : Sound j
  forward : j.clock.Forward
  orderly : j.Orderly id
  known : since.inCalendar = true
  passed : since ≤ j.clock.reading
  stored : ∃ s hops, j.steps id = s :: hops ∧ Procession c.label own since observed s hops

namespace Escorts

variable {c : Coordinator} {Sound : Journal → Prop} {id : RequestId} {own : Option StepId}
  {since : Timestamp} {observed : List Reply} {j k : Journal}

theorem elapsed (escorts : Escorts c Sound id own since observed j)
    (retains : c.recorder.Retains Sound) (elapses : j.Elapses k) :
    Escorts c Sound id own since observed k := by
  have spares := elapses.spares retains escorts.sound id
  refine ⟨spares.sound escorts.sound, escorts.forward.onward spares.onward,
    escorts.orderly.carry spares.held spares.counted escorts.forward spares.onward, escorts.known,
    Timestamp.le_trans escorts.passed (escorts.forward.reading_le spares.onward), ?_⟩
  rw [Journal.steps_congr spares.held]
  exact escorts.stored

/-- A message that has been seen leaves its step, which starts when the last one was seen. -/
theorem recorded (escorts : Escorts c Sound id own since observed j)
    (retains : c.recorder.Retains Sound) (healthy : ¬ c.recorder.Falters Sound)
    (named : id.isBlank = false) (h : Reply)
    (few : (c.recorder.recordStep id h.sender.text since (!h.body.isRejected) j).2.stepCount ≤
      twoTo 128) :
    Escorts c Sound id own
      (c.recorder.recordStep id h.sender.text since (!h.body.isRejected) j).2.clock.reading
      (observed ++ [h])
      (c.recorder.recordStep id h.sender.text since (!h.body.isRejected) j).2 := by
  have performed := Recorder.perform_spec retains escorts.sound escorts.orderly.named
    escorts.orderly.once (.finished escorts.known h.sender.text (!h.body.isRejected))
  have read := escorts.forward.reading_le performed.onward
  refine ⟨performed.sound, escorts.forward.onward performed.onward,
    performed.orderly escorts.orderly escorts.forward few, retains.known performed.sound _,
    Timestamp.le_refl _, ?_⟩
  obtain ⟨s, hops, stored, procession⟩ := escorts.stored
  unfold Recorder.recordStep
  have done := performed.done healthy named
  rw [done.steps.eq_append rfl, stored]
  refine ⟨s, hops ++ _, rfl, procession.join ⟨rfl, rfl, rfl⟩ rfl ?_ ?_⟩
  · intro e ended
    cases ended
    exact Timestamp.latest_le read (Timestamp.le_trans escorts.passed read)
  · exact Timestamp.le_trans escorts.passed read

/-- What was last seen may be taken to have been seen now. -/
theorem renewed (escorts : Escorts c Sound id own since observed j)
    (retains : c.recorder.Retains Sound) : Escorts c Sound id own j.clock.reading observed j := by
  obtain ⟨sound, forward, orderly, known, passed, s, hops, stored, procession⟩ := escorts
  refine ⟨sound, forward, orderly, retains.known sound _, Timestamp.le_refl _, s, hops, stored,
    { procession with begun := ?_, ended := ?_ }⟩
  · exact Timestamp.le_trans procession.begun passed
  · intro h member t closed
    exact Timestamp.le_trans (procession.ended h member t closed) passed

end Escorts

/-- A trace that tells what a relay saw. -/
structure RelayResult.Traces (result : RelayResult) (label : String) (t : RequestTrace) : Prop where
  requestId : t.requestId = result.requestId
  /-- The coordinator's step is first, and then there is one for every message seen. -/
  steps : ∃ s hops, t.steps = s :: hops ∧ s.participant = label ∧
    s.success = some (!result.timedOut) ∧
    List.Forall₂ Reply.Leaves result.observedHops hops ∧ hops.Pairwise Step.Precedes
  closed : t.openSteps = []
  lasts : ∀ s ∈ t.steps, ∃ ended, s.endTime = some ended ∧ s.startTime ≤ ended

namespace Escorts

variable {c : Coordinator} {Sound : Journal → Prop} {id : RequestId} {own : Option StepId}
  {since : Timestamp} {observed : List Reply} {j : Journal}

/-- Closing the coordinator's step leaves the others, which were closed before, as they are. -/
theorem concluded (escorts : Escorts c Sound id own since observed j)
    (retains : c.recorder.Retains Sound) (healthy : ¬ c.recorder.Falters Sound)
    (named : id.isBlank = false) (success : Bool)
    (few : (c.recorder.endStep id own success j).stepCount ≤ twoTo 128) :
    ∃ s now hops, (c.recorder.endStep id own success j).steps id = s.close now success :: hops ∧
      (s.close now success).success = some success ∧
      Procession c.label own since observed s hops ∧ Sound (c.recorder.endStep id own success j) ∧
      (c.recorder.endStep id own success j).Orderly id := by
  have performed := Recorder.perform_spec retains escorts.sound escorts.orderly.named
    escorts.orderly.once (.close [(own, success)])
  have answers := performed.answers named
  have orderly := performed.orderly escorts.orderly escorts.forward few
  obtain ⟨s, hops, stored, procession⟩ := escorts.stored
  have proper := escorts.orderly.proper s (by rw [stored]; exact List.mem_cons_self)
  unfold Recorder.endStep
  rw [stored] at answers
  generalize steps : (c.recorder.perform id (.close [(own, success)]) j).2.steps id = after at answers
  cases answers with
  | @cons _ s' _ hops' ours theirs =>
    have due : Recorder.closing? [(own, success)] s.stepId = some success := by
      rw [Recorder.closing?_single, if_pos procession.own]
    rw [due] at ours
    have same : hops = hops' := by
      refine eq_of_forall₂ ((List.forall₂_and_left hops hops').2 ⟨?_, theirs⟩)
        fun _ _ both => (both.2.eq_of_closed both.1).symm
      intro t member
      obtain ⟨h, -, leaves⟩ := exists_of_forall₂ procession.each member
      exact leaves.closed
    subst same
    rcases ours.hit success rfl with ⟨now, closed⟩ | ⟨falters, -⟩
    · exact ⟨s, now, hops, closed ▸ steps, proper.success_close procession.unclosed now success,
        procession, performed.sound, orderly⟩
    · exact absurd falters healthy

/-- What is read of a relay afterwards, when its result says what was seen. -/
theorem traced (escorts : Escorts c Sound id own since observed j)
    (retains : c.recorder.Retains Sound) (healthy : ¬ c.recorder.Falters Sound)
    (named : id.isBlank = false) {result : RelayResult} (whose : result.requestId = id)
    (seen : result.observedHops = observed)
    (few : (c.recorder.endStep id own (!result.timedOut) j).stepCount ≤ twoTo 128) :
    result.Traces c.label
      (c.recorder.trace id (c.recorder.endStep id own (!result.timedOut) j)).1 := by
  obtain ⟨s, now, hops, steps, success, procession, sound, orderly⟩ :=
    escorts.concluded retains healthy named (!result.timedOut) few
  generalize c.recorder.endStep id own (!result.timedOut) j = k at steps sound orderly ⊢
  have proper := orderly.proper
  rcases held : k.held id with _ | t
  · rw [Journal.steps_of_none held] at steps
    cases steps
  · have whole : t.steps = s.close now (!result.timedOut) :: hops :=
      (Journal.steps_of_held held).symm.trans steps
    rw [steps] at proper
    have ordered : (t.steps.map Step.startTime).Pairwise (· ≤ ·) := by
      rw [whole, List.map_cons, Step.startTime_close, ← List.map_cons]
      exact procession.ordered fun h member => proper h (List.mem_cons_of_mem _ member)
    have shut : ∀ a ∈ t.steps, a.isOpen = false := by
      rw [whole]
      intro a member
      rcases List.mem_cons.1 member with rfl | later
      · exact Step.isOpen_close _ _ _
      · obtain ⟨h, -, leaves⟩ := exists_of_forall₂ procession.each later
        exact leaves.closed
    rw [Recorder.trace_of_held retains healthy sound held ordered]
    refine ⟨(orderly.named t held).trans whose.symm,
      ⟨_, hops, whole, ?_, success, ?_, procession.inTurn⟩, ?_, ?_⟩
    · exact (Step.participant_close _ _ _).trans procession.label
    · rw [seen]
      exact procession.each
    · rw [RequestTrace.openSteps, List.filter_eq_nil_iff]
      intro a member isOpen
      rw [shut a member] at isOpen
      cases isOpen
    · intro a member
      have closed := shut a member
      rcases ended : a.endTime with _ | e
      · rw [Step.isOpen, ended] at closed
        cases closed
      · exact ⟨e, rfl, (proper a (whole ▸ member)).ends e ended⟩

end Escorts

namespace Watch

variable {c : Coordinator} {Sound : Journal → Prop} {s : Watch} {w : World} {own : Option StepId}

/-- The step of a message runs from when the last message was seen to when this one was. -/
theorem see_escorts (retains : c.recorder.Retains Sound) (healthy : ¬ c.recorder.Falters Sound)
    (named : s.requestId.isBlank = false) (ours : s.coordinator = c)
    (escorts : Escorts c Sound s.requestId own s.since s.hops w.journal) (m : Reply)
    (few : (s.see m w).2.journal.stepCount ≤ twoTo 128) :
    Escorts c Sound s.requestId own (s.see m w).1.since (s.see m w).1.hops
      (s.see m w).2.journal := by
  subst ours
  have recorded := escorts.recorded retains healthy named m few
  exact recorded.elapsed retains ⟨rfl, Clock.onward_tick _, rfl⟩

/-- However long a relay reads, there is a step in turn for everything that it has seen. -/
theorem readOn_escorts (retains : c.recorder.Retains Sound) (healthy : ¬ c.recorder.Falters Sound)
    (named : s.requestId.isBlank = false) (ours : s.coordinator = c) (allowance : Nat)
    (ch : Channel) (escorts : Escorts c Sound s.requestId own s.since s.hops w.journal)
    (few : (readOn allowance ch s w).2.2.journal.stepCount ≤ twoTo 128) :
    (readOn allowance ch s w).2.1.requestId = s.requestId ∧
      Escorts c Sound s.requestId own (readOn allowance ch s w).2.1.since
        (readOn allowance ch s w).2.1.hops (readOn allowance ch s w).2.2.journal := by
  induction allowance generalizing ch s w with
  | zero => exact ⟨rfl, escorts⟩
  | succ allowance ih =>
    have elapses := World.elapses_receive ch s.deadline w
    rw [readOn] at few ⊢
    by_cases late : s.deadline ≤ w.now
    · rw [if_pos late]
      exact ⟨rfl, escorts⟩
    · rw [if_neg late] at few ⊢
      generalize w.receive ch s.deadline = a at elapses few ⊢
      obtain ⟨reading, ch', w'⟩ := a
      have waited := escorts.elapsed retains elapses
      cases reading with
      | cutOff => exact ⟨rfl, waited⟩
      | failed e => exact ⟨rfl, waited⟩
      | nothing => exact ih named ours ch' waited few
      | message m =>
        dsimp only at few waited ⊢
        have counted : (s.see m w').2.journal.stepCount ≤ twoTo 128 := by
          apply Nat.le_trans ?_ few
          split
          · exact Nat.le_refl _
          · exact stepCount_le_readOn _ _ _ _
        have seen := see_escorts retains healthy named ours waited m counted
        by_cases done : (s.see m w').1.terminal.isSome = true
        · rw [if_pos done]
          exact ⟨rfl, seen⟩
        · rw [if_neg done] at few ⊢
          exact ih (s := (s.see m w').1) named ours ch' seen few

end Watch

namespace Coordinator

variable {c : Coordinator} {Sound : Journal → Prop} {seeds : List RecipientId} {payload : Json}
  {marker : String} {deadline : Nat}

/-- A relay sets out with its own step open and nothing seen. -/
theorem seed_escorts (retains : c.recorder.Retains Sound) (healthy : ¬ c.recorder.Falters Sound)
    (seeds : List RecipientId) (payload : Json) {w : World} (sound : Sound w.journal)
    (forward : w.clock.Forward)
    (fresh : w.journal.held (RequestId.generated w.requestCount) = none)
    (few : (c.seed seeds payload w).2.2.journal.stepCount ≤ twoTo 128) :
    ∃ since, Escorts c Sound (RequestId.generated w.requestCount) (c.seed seeds payload w).2.1 since
      [] (c.seed seeds payload w).2.2.journal := by
  have elapses := World.elapses_connect (c.topic "relay" (RequestId.generated w.requestCount)) seeds
    (w.newRequest payload).1
    (c.startSteps (RequestId.generated w.requestCount) [c.label] (w.newRequest payload).2).2
  have opens := Recorder.opens_startSteps retains sound forward fresh [c.label]
    (Nat.le_trans (Nat.le_of_eq elapses.counted.symm) few)
  have proper := opens.orderly.proper
  rcases opens.outcome with ⟨-, -, blank | falters⟩ | ⟨participants, answer, unclosed, -⟩
  · rw [RequestId.isBlank_generated] at blank
    cases blank
  · exact absurd falters healthy
  · obtain ⟨s, single, named⟩ := List.map_eq_singleton_iff.1 participants
    rw [single] at proper unclosed answer
    have still := proper s List.mem_cons_self
    have isOpen : s.isOpen = true := by
      rw [still.isOpen, unclosed s List.mem_cons_self]
      rfl
    have step : (c.seed seeds payload w).2.1 = some s.stepId := by
      show (c.recorder.startSteps (RequestId.generated w.requestCount) [c.label]
        w.journal).1.head?.join = some s.stepId
      rw [answer]
      rfl
    rw [step]
    have begun : Escorts c Sound (RequestId.generated w.requestCount) (some s.stepId) _ []
        (c.recorder.startSteps (RequestId.generated w.requestCount) [c.label] w.journal).2 :=
      ⟨opens.sound, forward.onward opens.onward, opens.orderly, retains.known opens.sound _,
        Timestamp.le_refl _, s, [], single,
        .start named (unclosed s List.mem_cons_self) (still.begun isOpen)⟩
    exact ⟨_, begun.elapsed retains elapses⟩

/--
Over a store that neither fails nor loses anything, under a clock that never goes back, a relay
leaves a trace that tells what it saw, whatever the transport does.
-/
theorem relay_traces_its_hops (retains : c.recorder.Retains Sound)
    (healthy : ¬ c.recorder.Falters Sound)
    (accepted : relayRefusal? seeds payload marker deadline = none) {w : World}
    (sound : Sound w.journal) (forward : w.clock.Forward)
    (fresh : w.journal.held (RequestId.generated w.requestCount) = none)
    (few : (c.relay seeds payload marker deadline w).2.journal.stepCount ≤ twoTo 128) :
    ∃ result w', c.relay seeds payload marker deadline w = (.ok result, w') ∧
      result.Traces c.label (c.trace result.requestId w').1 := by
  have named := RequestId.isBlank_generated w.requestCount
  have begun := seed_escorts retains healthy seeds payload sound forward fresh
  rcases seeded : c.seed seeds payload w with ⟨connected, step, v⟩
  rw [seeded] at begun
  cases connected with
  | error fault =>
    have whole := c.relay_of_fault accepted seeded
    rw [whole] at few
    obtain ⟨since, started⟩ := begun (Nat.le_trans (Recorder.stepCount_le_perform _ _ _ _) few)
    refine ⟨_, _, whole, started.traced retains healthy named rfl rfl few⟩
  | ok ch =>
    rcases watched : Watch.readOn (ch.allowance v.patience) ch
      (c.watch payload marker deadline w v.wallClock.1 []) v.wallClock.2 with ⟨ch', s, u⟩
    have whole := c.relay_of_channel accepted seeded watched
    have counted := Watch.stepCount_le_readOn (ch.allowance v.patience) ch
      (c.watch payload marker deadline w v.wallClock.1 []) v.wallClock.2
    rw [watched] at counted
    rw [whole] at few
    have fewRead : u.journal.stepCount ≤ twoTo 128 :=
      Nat.le_trans (Recorder.stepCount_le_perform c.recorder _ _ u.journal) few
    obtain ⟨since, started⟩ := begun (Nat.le_trans counted fewRead)
    have ready := (started.renewed retains).elapsed retains v.elapses_wallClock
    have seen := Watch.readOn_escorts (s := c.watch payload marker deadline w v.wallClock.1 [])
      retains healthy named rfl (ch.allowance v.patience) ch ready (by rw [watched]; exact fewRead)
    rw [watched] at seen
    obtain ⟨same, seen⟩ := seen
    have success : s.terminal.isSome = !(s.result ((u.release ch').now - w.now)).timedOut := by
      rw [Watch.result, Option.not_isNone]
    refine ⟨_, _, whole, ?_⟩
    have whose : (s.result ((u.release ch').now - w.now)).requestId =
        RequestId.generated w.requestCount := same
    rw [whose]
    rw [success] at few ⊢
    exact seen.traced retains healthy named whose rfl few

/-- Four messages, one of them a refusal and one without content, and a store that is slow once. -/
theorem relay_traces_its_hops_rehearsal :
    ∃ result w', rehearsal.relay [⟨"a"⟩, ⟨"b"⟩] (.string "hi") "yes" 50 (World.rehearsal [.stall 3]) =
        (.ok result, w') ∧
      result.Traces "desk" (rehearsal.trace result.requestId w').1 :=
  relay_traces_its_hops (Recorder.retains_healthy _) (Recorder.not_falters_healthy _) (by decide)
    (World.healthy_rehearsal (by decide)) (World.forward_rehearsal _) (World.held_rehearsal _ _)
    (by decide +kernel)

end Coordinator

end RollCall
