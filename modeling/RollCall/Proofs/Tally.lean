import RollCall.Proofs.FanOut
import RollCall.Proofs.Indifference
import RollCall.Proofs.Retention

set_option autoImplicit false

/-!
The steps of a fan-out beside its slots. From the start to the end the store either holds nothing of
the fan-out, or it holds the coordinator's step and one step for every slot, in their order; a step
is closed only as its slot says, and one stays open that should be closed only if the store fails.
-/
namespace RollCall

/-- A step is closed with the success that is due, or it is open though it should be closed. -/
structure Step.Tells (may : Prop) (due : Option Bool) (s : Step) : Prop where
  told : ∀ b, s.success = some b → due = some b
  kept : ¬ may → s.success = due

/-- What becomes of a step if the close that is due may be lost. -/
structure Step.Answers (may : Prop) (due : Option Bool) (s s' : Step) : Prop where
  hit : ∀ b, due = some b → (∃ now, s' = s.close now b) ∨ may ∧ s' = s
  miss : due = none → s' = s

namespace Step

variable {may : Prop} {due : Option Bool} {s s' : Step} {now : Timestamp}

theorem Answers.eq_or (answers : s.Answers may due s') : s' = s ∨ ∃ now b, s' = s.close now b := by
  cases due with
  | none => exact Or.inl (answers.miss rfl)
  | some b =>
    rcases answers.hit b rfl with ⟨now, closed⟩ | ⟨-, same⟩
    · exact Or.inr ⟨now, b, closed⟩
    · exact Or.inl same

theorem Answers.stepId (answers : s.Answers may due s') : s'.stepId = s.stepId := by
  rcases answers.eq_or with rfl | ⟨now, b, rfl⟩
  · rfl
  · exact stepId_close s now b

theorem Answers.participant (answers : s.Answers may due s') : s'.participant = s.participant := by
  rcases answers.eq_or with rfl | ⟨now, b, rfl⟩
  · rfl
  · exact participant_close s now b

theorem Answers.startTime (answers : s.Answers may due s') : s'.startTime = s.startTime := by
  rcases answers.eq_or with rfl | ⟨now, b, rfl⟩
  · rfl
  · exact startTime_close s now b

/-- A step that was closed before stays as it is. -/
theorem Answers.eq_of_closed (answers : s.Answers may due s') (closed : s.isOpen = false) :
    s' = s := by
  rcases answers.eq_or with same | ⟨now, b, same⟩
  · exact same
  · rw [same, close_of_closed closed]

/-- A step that was not closed before can only have been closed as was due. -/
theorem Answers.told (answers : s.Answers may due s') (unclosed : s.success = none) :
    ∀ b, s'.success = some b → due = some b := by
  intro b success
  cases due with
  | none =>
    rw [answers.miss rfl, unclosed] at success
    cases success
  | some b' =>
    rcases answers.hit b' rfl with ⟨now, same⟩ | ⟨-, same⟩
    · rw [same, close] at success
      split at success
      · exact success
      · rw [unclosed] at success
        cases success
    · rw [same, unclosed] at success
      cases success

theorem Proper.isOpen (proper : s.Proper now) : s.isOpen = s.success.isNone := by
  rw [Step.isOpen, ← Option.not_isSome, proper.both, Option.not_isSome]

theorem Proper.success_close (proper : s.Proper now) (unclosed : s.success = none)
    (later : Timestamp) (b : Bool) : (s.close later b).success = some b := by
  have isOpen : s.isOpen = true := by
    rw [proper.isOpen, unclosed]
    rfl
  rw [Step.close, if_pos isOpen]

/-- A close that is due and not lost closes an open step. -/
theorem Tells.answers (tells : s.Tells may none) (proper : s.Proper now) {b : Bool}
    (answers : s.Answers may (some b) s') : s'.Tells may (some b) := by
  have still : s.success = none := by
    cases equal : s.success with
    | none => rfl
    | some success => exact absurd (tells.told success equal) (by simp)
  rcases answers.hit b rfl with ⟨later, closed⟩ | ⟨lost, same⟩
  · have success : s'.success = some b := closed ▸ proper.success_close still later b
    exact ⟨fun _ told => success.symm.trans told, fun _ => success⟩
  · subst same
    refine ⟨?_, fun sure => absurd lost sure⟩
    intro success told
    rw [still] at told
    cases told

theorem tells_of_unclosed (unclosed : s.success = none) : s.Tells may none := by
  refine ⟨?_, fun _ => unclosed⟩
  intro b told
  rw [unclosed] at told
  cases told

end Step

namespace Recorder

variable {r : Recorder} {Sound : Journal → Prop} {id : RequestId} {j j' : Journal}
  {answer : List (Option StepId)}

/-- Closing steps of a request that has a name. -/
theorem Performed.answers {closes : List (Option StepId × Bool)}
    (performed : r.Performed Sound id (.close closes) j answer j') (named : id.isBlank = false) :
    List.Forall₂ (fun s s' => s.Answers (r.Falters Sound) (closing? closes s.stepId) s') (j.steps id)
      (j'.steps id) := by
  rcases performed.outcome with dropped | done
  · have may : r.Falters Sound := by
      rcases dropped.reason with blank | falters
      · rw [named] at blank
        cases blank
      · exact falters
    rw [Journal.steps_congr dropped.held]
    exact List.forall₂_same.2 fun s _ => ⟨fun b _ => Or.inr ⟨may, rfl⟩, fun _ => rfl⟩
  · obtain ⟨kept, steps, heeds⟩ := done.steps
    have all : j'.steps id = kept := steps.trans (List.append_nil kept)
    rw [all]
    refine heeds.imp ?_
    intro s s' heeded
    refine ⟨?_, ?_⟩
    · intro b due
      rw [Step.Heeds, Recording.closes, due] at heeded
      obtain ⟨n, -, -, closed⟩ := heeded
      exact Or.inl ⟨_, closed⟩
    · intro nothing
      rw [Step.Heeds, Recording.closes, nothing] at heeded
      exact heeded

end Recorder

/-- A single close is due to the step that it names. -/
theorem Recorder.closing?_single (step : Option StepId) (success : Bool) (x : StepId) :
    closing? [(step, success)] x = if step = some x then some success else none := by
  cases step with
  | none => rfl
  | some y =>
    rw [closing?_cons_some]
    simp [closing?]

/-- The journal after a wait: the store has not been used, and no identifier been handed out. -/
structure Journal.Elapses (j k : Journal) : Prop where
  store : k.store = j.store
  onward : j.clock.Onward k.clock
  counted : k.stepCount = j.stepCount

theorem Journal.Elapses.refl (j : Journal) : j.Elapses j := ⟨rfl, Clock.Onward.refl _, rfl⟩

theorem Journal.Elapses.trans {j k l : Journal} (first : j.Elapses k) (second : k.Elapses l) :
    j.Elapses l :=
  ⟨second.store.trans first.store, first.onward.trans second.onward,
    second.counted.trans first.counted⟩

/-- From one journal to another a request is left alone, whatever is recorded of other requests. -/
structure Journal.Spares (Sound : Journal → Prop) (id : RequestId) (j k : Journal) : Prop where
  sound : Sound j → Sound k
  onward : j.clock.Onward k.clock
  counted : j.stepCount ≤ k.stepCount
  few : j.stepCount ≤ twoTo 128 → k.stepCount ≤ twoTo 128
  held : k.held id = j.held id

theorem Journal.Spares.refl (Sound : Journal → Prop) (id : RequestId) (j : Journal) :
    j.Spares Sound id j :=
  ⟨fun sound => sound, Clock.Onward.refl _, Nat.le_refl _, fun few => few, rfl⟩

theorem Journal.Elapses.spares {r : Recorder} {Sound : Journal → Prop} {j k : Journal}
    (elapses : j.Elapses k) (retains : r.Retains Sound) (sound : Sound j) (id : RequestId) :
    j.Spares Sound id k := by
  obtain ⟨soundLater, held⟩ := retains.pass sound elapses.store elapses.onward
  exact ⟨fun _ => soundLater, elapses.onward, Nat.le_of_eq elapses.counted.symm,
    fun few => elapses.counted ▸ few, congrFun held id⟩

namespace World

theorem readings_receive (ch : Channel) (limit : Nat) (w : World) :
    (w.receive ch limit).2.2.clock.readings = w.clock.readings := by
  show (w.transport.receive w.clock limit ch).2.2.readings = _
  cases ch with
  | hub h =>
    simp only [Transport.receive, Hub.receive]
    split <;> simp
  | playback script =>
    simp only [Transport.receive, PlaybackChannel.receive]
    split
    · simp
    · split <;> simp

theorem elapses_receive (ch : Channel) (limit : Nat) (w : World) :
    w.journal.Elapses (w.receive ch limit).2.2.journal := by
  have taken : (w.transport.receive w.clock limit ch).2.2.taken = w.clock.taken := by
    cases ch with
    | hub h =>
      simp only [Transport.receive, Hub.receive]
      split <;> simp
    | playback script =>
      simp only [Transport.receive, PlaybackChannel.receive]
      split
      · simp
      · split <;> simp
  exact ⟨rfl, ⟨readings_receive ch limit w, Nat.le_of_eq taken.symm⟩, rfl⟩

theorem elapses_await (delay : Option Nat) (w : World) :
    w.journal.Elapses (w.await delay).journal := by
  cases delay with
  | none => exact ⟨rfl, .refl _, rfl⟩
  | some ms => exact ⟨rfl, Clock.onward_wait _ _, rfl⟩

theorem elapses_connect (topic : String) (recipients : List RecipientId) (request : Request)
    (w : World) : w.journal.Elapses (w.connect topic recipients request).2.journal := by
  obtain ⟨ms, waited⟩ := (w.takes_connect topic recipients request).waits
  rw [waited]
  exact ⟨rfl, Clock.onward_wait _ _, rfl⟩

theorem elapses_send (recipient : RecipientId) (request : Request) (limit : Nat) (w : World) :
    w.journal.Elapses (w.send recipient request limit).2.journal := by
  have cutOff : w.clock.Onward (w.clock.waitUntil limit) :=
    ⟨Clock.readings_waitUntil _ _, Nat.le_of_eq (Clock.taken_waitUntil _ _).symm⟩
  unfold send
  rcases w.transport.answer? recipient request with ⟨answer, t⟩
  cases answer with
  | none => exact ⟨rfl, cutOff, rfl⟩
  | some timed =>
    dsimp only
    split
    · exact ⟨rfl, Clock.onward_wait _ _, rfl⟩
    · exact ⟨rfl, cutOff, rfl⟩

theorem elapses_wallClock (w : World) : w.journal.Elapses w.wallClock.2.journal :=
  ⟨rfl, Clock.onward_tick _, rfl⟩

end World

/-- A request that is given no identifier gets one that is not blank. -/
theorem RequestId.isBlank_generated (n : Nat) : (RequestId.generated n).isBlank = false := by
  have hyphen : '-' ∈ (RequestId.generated n).text.toList := by
    simp [RequestId.generated, StepId.text, StepId.print]
  rw [RequestId.isBlank, Bool.eq_false_iff]
  intro blank
  have space := Text.isBlank_iff.1 blank '-' hyphen
  revert space
  decide

namespace Journal

/-- Steps are opened one after another, each later than the one before or at the same time. -/
theorem openAll_spec (participants : List String) {j : Journal} (forward : j.clock.Forward) :
    (∀ s ∈ (j.openAll participants).1, s.success = none) ∧
      (∀ s ∈ (j.openAll participants).1, j.clock.reading ≤ s.startTime) ∧
      ((j.openAll participants).1.map Step.startTime).Pairwise (· ≤ ·) := by
  induction participants generalizing j with
  | nil => exact ⟨by simp [openAll], by simp [openAll], List.Pairwise.nil⟩
  | cons participant rest ih =>
    obtain ⟨unclosed, later, ordered⟩ :=
      ih (j := { j with clock := j.clock.tick, stepCount := j.stepCount + 1 }) forward
    have onward : j.clock.reading ≤ j.clock.tick.reading := forward _ _ (Nat.le_succ _)
    rw [openAll]
    refine ⟨?_, ?_, ?_⟩
    · intro s member
      rcases List.mem_cons.1 member with rfl | tail
      · rfl
      · exact unclosed s tail
    · intro s member
      rcases List.mem_cons.1 member with rfl | tail
      · exact Timestamp.le_refl _
      · exact Timestamp.le_trans onward (later s tail)
    · refine List.pairwise_cons.2 ⟨?_, ordered⟩
      intro t member
      obtain ⟨s, tail, rfl⟩ := List.mem_map.1 member
      exact Timestamp.le_trans onward (later s tail)

end Journal

/-- What opening the first steps of a request comes to: none of them is stored, or all are. -/
structure Recorder.Opens (r : Recorder) (Sound : Journal → Prop) (id : RequestId)
    (participants : List String) (j : Journal) (answer : List (Option StepId)) (k : Journal) :
    Prop where
  sound : Sound k
  onward : j.clock.Onward k.clock
  orderly : k.Orderly id
  outcome : (k.held id = none ∧ (∀ x ∈ answer, x = none) ∧ (id.isBlank = true ∨ r.Falters Sound)) ∨
    (k.steps id).map Step.participant = participants ∧
      answer = (k.steps id).map (fun s => some s.stepId) ∧ (∀ s ∈ k.steps id, s.success = none) ∧
      ((k.steps id).map Step.startTime).Pairwise (· ≤ ·)

theorem Recorder.opens_startSteps {r : Recorder} {Sound : Journal → Prop} {id : RequestId}
    {j : Journal} (retains : r.Retains Sound) (sound : Sound j) (forward : j.clock.Forward)
    (fresh : j.held id = none) (participants : List String)
    (few : (r.startSteps id participants j).2.stepCount ≤ twoTo 128) :
    r.Opens Sound id participants j (r.startSteps id participants j).1
      (r.startSteps id participants j).2 := by
  have orderly := Journal.orderly_of_none fresh
  have performed := perform_spec retains sound orderly.named orderly.once (.start participants)
  refine ⟨performed.sound, performed.onward, performed.orderly orderly forward few, ?_⟩
  rcases performed.outcome with dropped | done
  · refine Or.inl ⟨dropped.held.trans fresh, ?_, dropped.reason⟩
    intro x member
    rw [startSteps, dropped.answer] at member
    obtain ⟨s, -, rfl⟩ := List.mem_map.1 member
    rfl
  · obtain ⟨kept, steps, heeds⟩ := done.steps
    rw [Journal.steps_of_none fresh, List.forall₂_nil_left_iff] at heeds
    subst heeds
    have whole : (r.startSteps id participants j).2.steps id = (j.openAll participants).1 := steps
    obtain ⟨unclosed, -, ordered⟩ := Journal.openAll_spec participants forward
    rw [whole]
    exact Or.inr ⟨Journal.participants_openAll participants j, done.answer, unclosed, ordered⟩

theorem Recorder.stepCount_startSteps_le {r : Recorder} {Sound : Journal → Prop} {id : RequestId}
    {j : Journal} (retains : r.Retains Sound) (sound : Sound j) (fresh : j.held id = none)
    (participants : List String) :
    (r.startSteps id participants j).2.stepCount ≤ j.stepCount + participants.length := by
  have orderly := Journal.orderly_of_none fresh
  exact (perform_spec retains sound orderly.named orderly.once (.start participants)).most

/-- A slot beside its step. -/
structure Slot.Tallies (may : Prop) (p : Slot) (s : Step) : Prop where
  participant : s.participant = p.recipient.text
  step : p.step = some s.stepId
  tells : s.Tells may (p.report.map Except.isOk)

namespace FanOut

/--
The steps of a fan-out, of which the coordinator's is closed as is due. There are none if the store
failed when they were to be opened.
-/
inductive Tallied (may : Prop) (f : FanOut) (due : Option Bool) : List RollCall.Step → Prop
  | nothing (lost : may) (coordinator : f.coordinatorStep = none)
    (slots : ∀ p ∈ f.slots, p.step = none) : Tallied may f due []
  | recorded {s : RollCall.Step} {steps : List RollCall.Step}
    (label : s.participant = f.coordinator.label) (coordinator : f.coordinatorStep = some s.stepId)
    (tells : s.Tells may due) (slots : List.Forall₂ (Slot.Tallies may) f.slots steps) :
    Tallied may f due (s :: steps)

/-- A fan-out of a coordinator beside what is stored of it. -/
structure Chronicle (c : Coordinator) (Sound : Journal → Prop) (due : Option Bool) (f : FanOut)
    (j : Journal) : Prop where
  own : f.coordinator = c
  named : f.requestId.isBlank = false
  once : (f.slots.map Slot.recipient).Nodup
  sound : Sound j
  forward : j.clock.Forward
  orderly : j.Orderly f.requestId
  few : j.stepCount ≤ twoTo 128
  ordered : ((j.steps f.requestId).map RollCall.Step.startTime).Pairwise (· ≤ ·)
  tallied : f.Tallied (c.recorder.Falters Sound) due (j.steps f.requestId)

variable {c : Coordinator} {Sound : Journal → Prop} {due : Option Bool} {f f' : FanOut}
  {j j' : Journal} {w w' : World} {log : List Call} {r : Option Resolution} {rs : List Resolution}

theorem Tallied.withChannel {may : Prop} {steps : List RollCall.Step}
    (tallied : f.Tallied may due steps) (channel : Option Channel) (notes : List String) :
    Tallied may { f with channel := channel, notes := notes } due steps := by
  cases tallied with
  | nothing lost coordinator slots => exact .nothing lost coordinator slots
  | recorded label coordinator tells slots => exact .recorded label coordinator tells slots

/-- What is done elsewhere, and what is done with the channel, leaves the steps as they are. -/
theorem Chronicle.spared (chronicle : f.Chronicle c Sound due j)
    (spares : j.Spares Sound f.requestId j') (channel : Option Channel) (notes : List String) :
    Chronicle c Sound due { f with channel := channel, notes := notes } j' := by
  obtain ⟨own, named, once, sound, forward, orderly, few, ordered, tallied⟩ := chronicle
  have steps := Journal.steps_congr spares.held
  refine ⟨own, named, once, spares.sound sound, forward.onward spares.onward,
    orderly.carry spares.held spares.counted forward spares.onward, spares.few few, ?_, ?_⟩
  · show ((j'.steps f.requestId).map _).Pairwise _
    rw [steps]
    exact ordered
  · show Tallied _ _ _ (j'.steps f.requestId)
    rw [steps]
    exact tallied.withChannel channel notes

theorem Chronicle.elapsed (chronicle : f.Chronicle c Sound due j) (retains : c.recorder.Retains Sound)
    (elapses : j.Elapses j') (channel : Option Channel) (notes : List String) :
    Chronicle c Sound due { f with channel := channel, notes := notes } j' :=
  chronicle.spared (elapses.spares retains chronicle.sound f.requestId) channel notes

theorem steps_of_slots {may : Prop} {slots : List Slot} {steps : List RollCall.Step}
    (tallies : List.Forall₂ (Slot.Tallies may) slots steps) :
    slots.map Slot.step = (steps.map RollCall.Step.stepId).map some := by
  rw [List.map_map]
  exact map_eq_of_forall₂ tallies fun _ _ tallies => tallies.step

/-- The step that is owed a close belongs to whom the report is of, and to nobody else. -/
theorem step_of_recipient {may : Prop} {steps : List RollCall.Step} {q : RecipientId}
    {x : Option StepId} (once : (f.slots.map Slot.recipient).Nodup)
    (ids : (steps.map RollCall.Step.stepId).Nodup)
    (slots : List.Forall₂ (Slot.Tallies may) f.slots steps) (owed : f.pendingStep? q = some x) :
    ∀ p ∈ f.slots, (p.recipient = q ↔ p.step = x) ∧ (p.recipient = q → p.report = none) := by
  obtain ⟨p₀, found, rfl⟩ := Option.map_eq_some_iff.1 owed
  have member := List.mem_of_find?_eq_some found
  have holds := List.find?_some found
  rw [Bool.and_eq_true, beq_iff_eq, Option.isNone_iff_eq_none] at holds
  obtain ⟨rfl, unheard⟩ := holds
  have stepsOnce : (f.slots.map Slot.step).Nodup := by
    rw [steps_of_slots slots]
    exact ids.map (Option.some_injective _)
  intro p listed
  refine ⟨⟨?_, ?_⟩, ?_⟩
  · intro same
    rw [List.inj_on_of_nodup_map once listed member same]
  · intro same
    rw [List.inj_on_of_nodup_map stepsOnce listed member same]
  · intro same
    rw [List.inj_on_of_nodup_map once listed member same]
    exact unheard

/-- Slots with a report noted beside steps with a step closed. -/
theorem tallies_fill {may : Prop} {slots : List Slot} {steps steps' : List RollCall.Step}
    {q : RecipientId} {x : Option StepId} {result : Except RemoteError String} {now : Timestamp}
    (tallies : List.Forall₂ (Slot.Tallies may) slots steps)
    (answers : List.Forall₂ (fun s s' =>
      RollCall.Step.Answers may (Recorder.closing? [(x, result.isOk)] s.stepId) s s') steps steps')
    (own : ∀ p ∈ slots, (p.recipient = q ↔ p.step = x) ∧ (p.recipient = q → p.report = none))
    (proper : ∀ s ∈ steps, s.Proper now) :
    List.Forall₂ (Slot.Tallies may) (fill q result slots) steps' := by
  induction tallies generalizing steps' with
  | nil =>
    cases answers
    exact List.Forall₂.nil
  | @cons p s slots steps first _ ih =>
    cases answers with
    | @cons _ s' _ later answer rest =>
      obtain ⟨⟨toStep, toRecipient⟩, unheard⟩ := own p List.mem_cons_self
      refine List.Forall₂.cons ?_ (ih rest (fun p' member => own p' (List.mem_cons_of_mem _ member))
        fun t member => proper t (List.mem_cons_of_mem _ member))
      rw [Recorder.closing?_single] at answer
      have participant := answer.participant.trans first.participant
      by_cases same : p.recipient = q
      · have named : x = some s.stepId := (toStep same).symm.trans first.step
        have tells := first.tells
        rw [unheard same] at tells
        rw [if_pos named] at answer
        dsimp only
        rw [if_pos same]
        exact ⟨participant, first.step.trans (congrArg some answer.stepId.symm),
          tells.answers (proper s List.mem_cons_self) answer⟩
      · have other : x ≠ some s.stepId := by
          intro named
          exact same (toRecipient (first.step.trans named.symm))
        rw [if_neg other] at answer
        dsimp only
        rw [if_neg same, answer.miss rfl]
        exact first

/-- Closing one step leaves the request in order. -/
theorem Chronicle.closed (chronicle : f.Chronicle c Sound due j)
    (retains : c.recorder.Retains Sound) (step : Option StepId) (success : Bool) :
    let k := c.recorder.endStep f.requestId step success j
    Sound k ∧ k.clock.Forward ∧ k.Orderly f.requestId ∧ k.stepCount ≤ twoTo 128 ∧
      ((k.steps f.requestId).map RollCall.Step.startTime).Pairwise (· ≤ ·) ∧
      List.Forall₂ (fun s s' => RollCall.Step.Answers (c.recorder.Falters Sound)
        (Recorder.closing? [(step, success)] s.stepId) s s') (j.steps f.requestId)
        (k.steps f.requestId) := by
  obtain ⟨own, named, once, sound, forward, orderly, few, ordered, tallied⟩ := chronicle
  have performed := Recorder.perform_spec retains sound orderly.named orderly.once
    (.close [(step, success)])
  have answers := performed.answers named
  have fewLater := Nat.le_trans performed.most few
  refine ⟨performed.sound, forward.onward performed.onward,
    performed.orderly orderly forward fewLater, fewLater, ?_, answers⟩
  have same := map_eq_of_forall₂ (f := RollCall.Step.startTime) (g := RollCall.Step.startTime) answers
    fun _ _ answer => answer.startTime.symm
  exact same ▸ ordered

/-- Noting a report and closing its step keep slots and steps together. -/
theorem Chronicle.resolved (chronicle : f.Chronicle c Sound due j)
    (retains : c.recorder.Retains Sound) {q : RecipientId} {x : Option StepId}
    (owed : f.pendingStep? q = some x) (result : Except RemoteError String) :
    Chronicle c Sound due { f with slots := fill q result f.slots }
      (c.recorder.endStep f.requestId x result.isOk j) := by
  obtain ⟨sound, forward, orderly, few, ordered, answers⟩ := chronicle.closed retains x result.isOk
  refine ⟨chronicle.own, chronicle.named, ?_, sound, forward, orderly, few, ordered, ?_⟩
  · rw [recipient_fill]
    exact chronicle.once
  · have ids := chronicle.orderly.once
    have proper := chronicle.orderly.proper
    have tallied := chronicle.tallied
    dsimp only
    generalize (c.recorder.endStep f.requestId x result.isOk j).steps f.requestId = after at answers ⊢
    generalize j.steps f.requestId = before at tallied answers ids proper
    cases tallied with
    | nothing lost coordinator slots =>
      cases answers
      refine .nothing lost coordinator ?_
      intro p member
      obtain ⟨p₀, listed, rfl⟩ := List.mem_map.1 member
      split
      · exact slots p₀ listed
      · exact slots p₀ listed
    | @recorded s steps label coordinator tells slots =>
      cases answers with
      | @cons _ s' _ later answer rest =>
        rw [List.map_cons, List.nodup_cons] at ids
        have own := step_of_recipient chronicle.once ids.2 slots owed
        have different : x ≠ some s.stepId := by
          intro named
          obtain ⟨p₀, found, rfl⟩ := Option.map_eq_some_iff.1 owed
          have listed := List.mem_map_of_mem (f := Slot.step) (List.mem_of_find?_eq_some found)
          rw [steps_of_slots slots, named,
            List.mem_map_of_injective (Option.some_injective _)] at listed
          exact ids.1 listed
        rw [Recorder.closing?_single, if_neg different] at answer
        rw [answer.miss rfl]
        exact .recorded label coordinator tells (tallies_fill slots rest own
          fun t member => proper t (List.mem_cons_of_mem _ member))

/-- Closing the coordinator's step is all that is left to do. -/
theorem Chronicle.concluded (chronicle : f.Chronicle c Sound none j)
    (retains : c.recorder.Retains Sound) (success : Bool) :
    f.Chronicle c Sound (some success)
      (c.recorder.endStep f.requestId f.coordinatorStep success j) := by
  obtain ⟨sound, forward, orderly, few, ordered, answers⟩ :=
    chronicle.closed retains f.coordinatorStep success
  refine ⟨chronicle.own, chronicle.named, chronicle.once, sound, forward, orderly, few, ordered, ?_⟩
  have ids := chronicle.orderly.once
  have proper := chronicle.orderly.proper
  have tallied := chronicle.tallied
  generalize (c.recorder.endStep f.requestId f.coordinatorStep success j).steps f.requestId = after
    at answers ⊢
  generalize j.steps f.requestId = before at tallied answers ids proper
  cases tallied with
  | nothing lost coordinator slots =>
    cases answers
    exact .nothing lost coordinator slots
  | @recorded s steps label coordinator tells slots =>
    cases answers with
    | @cons _ s' _ later answer rest =>
      rw [List.map_cons, List.nodup_cons] at ids
      have others : ∀ t ∈ steps, f.coordinatorStep ≠ some t.stepId := by
        intro t member named
        rw [coordinator, Option.some_inj] at named
        exact ids.1 (named ▸ List.mem_map_of_mem member)
      have same : steps = later := by
        refine eq_of_forall₂ ((List.forall₂_and_left steps later).2 ⟨others, rest⟩) ?_
        intro t t' both
        obtain ⟨other, answer⟩ := both
        rw [Recorder.closing?_single, if_neg other] at answer
        exact (answer.miss rfl).symm
      subst same
      rw [Recorder.closing?_single, if_pos coordinator] at answer
      exact .recorded (answer.participant.trans label)
        (coordinator.trans (congrArg some answer.stepId.symm))
        (tells.answers (proper s List.mem_cons_self) answer) slots

theorem Step.chronicle (step : Step f w log r f' w') (retains : c.recorder.Retains Sound)
    (chronicle : f.Chronicle c Sound due w.journal) : f'.Chronicle c Sound due w'.journal := by
  have own := chronicle.own
  subst own
  have received {ch ch' : Channel} {reading : Reading} {v : World}
      (read : w.receive ch f.deadline = (reading, ch', v)) : w.journal.Elapses v.journal := by
    have elapses := World.elapses_receive ch f.deadline w
    rwa [read] at elapses
  cases step with
  | @refused failure q setup pending =>
    have owed : f.pendingStep? q ≠ none := by
      rw [firstPending?_eq_head?] at pending
      intro settled
      exact (f.pendingStep?_eq_none_iff q).1 settled (List.mem_of_head? pending)
    obtain ⟨x, known⟩ := Option.ne_none_iff_exists'.1 owed
    have resolved := chronicle.resolved retains known (.error ⟨.transportFailure, failure⟩)
    rw [known]
    exact resolved
  | cutOff awaits read => exact chronicle.elapsed retains (received read) _ _
  | idle awaits read => exact chronicle.elapsed retains (received read) _ _
  | broken awaits read => exact chronicle.elapsed retains (received read) _ _
  | ignored awaits read unknown => exact chronicle.elapsed retains (received read) _ _
  | @reported _ _ ch' _ _ awaits read known =>
    have waited := chronicle.elapsed retains (received read) (some ch') f.notes
    exact waited.resolved retains known _

theorem Run.chronicle (run : Run f w log rs f' w') (retains : c.recorder.Retains Sound)
    (chronicle : f.Chronicle c Sound due w.journal) : f'.Chronicle c Sound due w'.journal := by
  induction run with
  | refl => exact chronicle
  | step first _ ih => exact ih (first.chronicle retains chronicle)

/-- At the end the coordinator's step is closed with whether everybody has answered. -/
theorem Chronicle.finish (chronicle : f.Chronicle c Sound none w.journal)
    (retains : c.recorder.Retains Sound) :
    Chronicle c Sound (some (f.missing.isEmpty && !f.anyFailed)) (f.finish w).1
      (f.finish w).2.journal := by
  have own := chronicle.own
  subst own
  have idle : w.journal.Elapses w.journal := ⟨rfl, Clock.Onward.refl _, rfl⟩
  unfold FanOut.finish releaseChannel
  cases channel : f.channel with
  | none => exact chronicle.concluded retains _
  | some ch => exact (chronicle.elapsed retains idle none f.notes).concluded retains _

/-- Slots that have just been made, beside steps that have just been opened. -/
theorem tallies_zip {may : Prop} {rs : List RecipientId} {steps : List RollCall.Step}
    (participants : steps.map RollCall.Step.participant = rs.map RecipientId.text)
    (unclosed : ∀ s ∈ steps, s.success = none) :
    List.Forall₂ (Slot.Tallies may)
      ((rs.zip (steps.map fun s => some s.stepId)).map fun p => ⟨p.1, p.2, none⟩) steps := by
  induction rs generalizing steps with
  | nil =>
    rw [List.map_nil, List.map_eq_nil_iff] at participants
    subst participants
    exact List.Forall₂.nil
  | cons q rest ih =>
    cases steps with
    | nil => cases participants
    | cons s steps =>
      rw [List.map_cons, List.map_cons, List.cons.injEq] at participants
      refine List.Forall₂.cons ⟨participants.1, rfl, ?_⟩
        (ih participants.2 fun t member => unclosed t (List.mem_cons_of_mem _ member))
      exact RollCall.Step.tells_of_unclosed (unclosed s List.mem_cons_self)

/-- Opening the steps of a fan-out puts them beside its slots, or stores nothing. -/
theorem tallied_of_opens {recipients : List RecipientId} {answer : List (Option StepId)}
    (opens : c.recorder.Opens Sound f.requestId
      (f.coordinator.label :: recipients.map RecipientId.text) j answer j')
    (named : f.requestId.isBlank = false) (coordinatorStep : f.coordinatorStep = answer.head?.join)
    (slots : f.slots = (recipients.zip answer.tail).map fun p => ⟨p.1, p.2, none⟩) :
    ((j'.steps f.requestId).map RollCall.Step.startTime).Pairwise (· ≤ ·) ∧
      f.Tallied (c.recorder.Falters Sound) none (j'.steps f.requestId) := by
  rcases opens.outcome with ⟨nothing, unanswered, reason⟩ | ⟨participants, answered, unclosed, ordered⟩
  · rw [Journal.steps_of_none nothing]
    refine ⟨List.Pairwise.nil, .nothing ?_ ?_ ?_⟩
    · rcases reason with blank | falters
      · rw [named] at blank
        cases blank
      · exact falters
    · rw [coordinatorStep]
      cases answer with
      | nil => rfl
      | cons x rest => rw [unanswered x List.mem_cons_self]; rfl
    · rw [slots]
      intro p member
      obtain ⟨⟨q, x⟩, zipped, rfl⟩ := List.mem_map.1 member
      exact unanswered x (List.mem_of_mem_tail (List.of_mem_zip zipped).2)
  · refine ⟨ordered, ?_⟩
    generalize j'.steps f.requestId = stored at participants answered unclosed
    cases stored with
    | nil => cases participants
    | cons s steps =>
      rw [List.map_cons, List.cons.injEq] at participants
      subst answered
      refine .recorded participants.1 coordinatorStep
        (RollCall.Step.tells_of_unclosed (unclosed s List.mem_cons_self)) ?_
      rw [slots]
      exact tallies_zip participants.2 fun t member => unclosed t (List.mem_cons_of_mem _ member)

/-- A fan-out under a new request starts with nothing stored or with all of its steps stored. -/
theorem chronicle_start (retains : c.recorder.Retains Sound) {recipients : List RecipientId}
    (once : recipients.Nodup) (request : Request) (named : request.requestId.isBlank = false)
    (wait : Nat) (sound : Sound w.journal) (forward : w.clock.Forward)
    (fresh : w.journal.held request.requestId = none)
    (few : w.journal.stepCount + (recipients.length + 1) ≤ twoTo 128) :
    Chronicle c Sound none (start c recipients request wait w).1
      (start c recipients request wait w).2.journal := by
  have elapses := World.elapses_connect (c.topic "broadcast" request.requestId) recipients request w
  obtain ⟨soundLater, held⟩ := retains.pass sound elapses.store elapses.onward
  have forwardLater : (w.connect (c.topic "broadcast" request.requestId) recipients
      request).2.clock.Forward := forward.onward elapses.onward
  have nothing := (congrFun held request.requestId).trans fresh
  have most : (start c recipients request wait w).2.journal.stepCount ≤ twoTo 128 := by
    refine Nat.le_trans (Recorder.stepCount_startSteps_le retains soundLater nothing
      (c.label :: recipients.map RecipientId.text)) ?_
    rw [elapses.counted, List.length_cons, List.length_map]
    exact few
  have opens := Recorder.opens_startSteps retains soundLater forwardLater nothing
    (c.label :: recipients.map RecipientId.text) most
  have listed := recipients_start c recipients request wait w
  obtain ⟨ordered, tallied⟩ := tallied_of_opens (f := (start c recipients request wait w).1) opens
    named rfl rfl
  exact ⟨rfl, named, listed.symm ▸ once, opens.sound, forwardLater.onward opens.onward,
    opens.orderly, most, ordered, tallied⟩

end FanOut

end RollCall
