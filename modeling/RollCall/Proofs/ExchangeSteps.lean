import RollCall.Proofs.Exchange
import RollCall.Proofs.Mirror

set_option autoImplicit false

/-!
The trace of a number of exchanges under one request. Each that is sent at all leaves two closed
steps, the coordinator's and the recipient's, behind those of the exchanges before it.
-/
namespace RollCall

def Step.shown (s : Step) : String × Option Bool := (s.participant, s.success)

/-- On a store that does not fail a step is closed as is due, if it was not closed before. -/
theorem Step.Answers.success {may : Prop} {due : Option Bool} {s s' : Step} {now : Timestamp}
    (answers : s.Answers may due s') (healthy : ¬ may) (proper : s.Proper now) :
    s'.success = s.success.or due := by
  cases due with
  | none => rw [answers.miss rfl, Option.or_none]
  | some b =>
    rcases answers.hit b rfl with ⟨later, closed⟩ | ⟨lost, -⟩
    · rw [closed]
      rcases held : s.success with _ | success
      · exact proper.success_close held later b
      · have shut : s.isOpen = false := by
          rw [proper.isOpen, held]
          rfl
        rw [Step.close_of_closed shut, held]
        rfl
    · exact absurd lost healthy

/-- Steps that are shown as closed are closed. -/
theorem isSome_of_shown {steps : List Step} {lines : List (String × Bool)}
    (shown : steps.map Step.shown = lines.map fun l => (l.1, some l.2)) {s : Step}
    (member : s ∈ steps) : s.success.isSome = true := by
  have line : s.shown ∈ lines.map fun l => (l.1, some l.2) := shown ▸ List.mem_map_of_mem member
  obtain ⟨l, -, same⟩ := List.mem_map.1 line
  have success : some l.2 = s.success := congrArg Prod.snd same
  rw [← success]
  rfl

variable {c : Coordinator} {Sound : Journal → Prop} {id : RequestId} {lines : List (String × Bool)}
  {s t : Step} {j k : Journal}

/-- Closing steps of a request that has a name, on a store that does not fail. -/
theorem Recorder.Performed.shown {r : Recorder} {Sound : Journal → Prop} {id : RequestId}
    {closes : List (Option StepId × Bool)} {j j' : Journal} {answer : List (Option StepId)}
    (performed : r.Performed Sound id (.close closes) j answer j') (healthy : ¬ r.Falters Sound)
    (named : id.isBlank = false) (orderly : j.Orderly id) : (j'.steps id).map Step.shown =
      (j.steps id).map fun s => (s.participant, s.success.or (closing? closes s.stepId)) := by
  have answers := (List.forall₂_and_left _ _).2 ⟨orderly.proper, performed.answers named⟩
  refine (map_eq_of_forall₂ answers ?_).symm
  intro s s' both
  obtain ⟨proper, answers⟩ := both
  rw [Step.shown, answers.participant, answers.success healthy proper]

/-- What a healthy store holds of a request under which exchanges have ended. -/
structure Exchanged (c : Coordinator) (Sound : Journal → Prop) (id : RequestId)
    (lines : List (String × Bool)) (j : Journal) : Prop where
  sound : Sound j
  forward : j.clock.Forward
  orderly : j.Orderly id
  shown : (j.steps id).map Step.shown = lines.map fun l => (l.1, some l.2)
  begun : ∀ s ∈ j.steps id, s.startTime ≤ j.clock.reading
  ordered : ((j.steps id).map Step.startTime).Pairwise (· ≤ ·)

namespace Exchanged

variable {c : Coordinator} {Sound : Journal → Prop} {id : RequestId} {lines : List (String × Bool)}
  {j k : Journal}

theorem fresh (sound : Sound j) (forward : j.clock.Forward) (nothing : j.held id = none) :
    Exchanged c Sound id [] j := by
  have empty := Journal.steps_of_none nothing
  refine ⟨sound, forward, Journal.orderly_of_none nothing, ?_, ?_, ?_⟩
  · rw [empty]
    rfl
  · simp [empty]
  · simp [empty]

end Exchanged

/-- The same while one more exchange is under way, of which the two steps are given. -/
structure Exchanging (c : Coordinator) (Sound : Journal → Prop) (id : RequestId)
    (lines : List (String × Bool)) (s t : Step) (j : Journal) : Prop where
  sound : Sound j
  forward : j.clock.Forward
  orderly : j.Orderly id
  stored : ∃ before, j.steps id = before ++ [s, t] ∧
    before.map Step.shown = lines.map fun l => (l.1, some l.2)
  unclosed : s.success = none ∧ t.success = none
  begun : ∀ s ∈ j.steps id, s.startTime ≤ j.clock.reading
  ordered : ((j.steps id).map Step.startTime).Pairwise (· ≤ ·)

section Exchange

/-- Two steps are opened with one write. -/
theorem Exchanged.opened (exchanged : Exchanged c Sound id lines j)
    (retains : c.recorder.Retains Sound) (healthy : ¬ c.recorder.Falters Sound)
    (named : id.isBlank = false) (ours theirs : String) (few : j.stepCount + 2 ≤ twoTo 128) :
    ∃ s t, s.participant = ours ∧ t.participant = theirs ∧
      (c.recorder.startSteps id [ours, theirs] j).1 = [some s.stepId, some t.stepId] ∧
      (c.recorder.startSteps id [ours, theirs] j).2.stepCount = j.stepCount + 2 ∧
      Exchanging c Sound id lines s t (c.recorder.startSteps id [ours, theirs] j).2 := by
  obtain ⟨sound, forward, orderly, shown, begun, ordered⟩ := exchanged
  have performed := Recorder.perform_spec retains sound orderly.named orderly.once
    (.start [ours, theirs])
  have done := performed.done healthy named
  have stepsLater := done.steps.eq_append rfl
  have orderlyLater := done.orderly performed.onward orderly forward few
  have onward := forward.reading_le performed.onward
  obtain ⟨unclosed, later, inTurn⟩ := Journal.openAll_spec [ours, theirs] forward
  refine ⟨_, _, rfl, rfl, done.answer, done.counted, performed.sound,
    forward.onward performed.onward, orderlyLater, ⟨j.steps id, stepsLater, shown⟩, ⟨rfl, rfl⟩, ?_, ?_⟩
  · intro s member
    unfold Recorder.startSteps at member
    have proper := orderlyLater.proper s member
    rw [stepsLater] at member
    rcases List.mem_append.1 member with old | new
    · exact Timestamp.le_trans (begun s old) onward
    · refine proper.begun ?_
      rw [proper.isOpen, unclosed s new]
      rfl
  · unfold Recorder.startSteps
    rw [stepsLater, List.map_append, List.pairwise_append]
    refine ⟨ordered, inTurn, ?_⟩
    intro a old b new
    obtain ⟨s, member, rfl⟩ := List.mem_map.1 old
    obtain ⟨t, member', rfl⟩ := List.mem_map.1 new
    exact Timestamp.le_trans (begun s member) (later t member')

theorem Exchanging.elapsed (exchanging : Exchanging c Sound id lines s t j)
    (retains : c.recorder.Retains Sound) (elapses : j.Elapses k) :
    Exchanging c Sound id lines s t k := by
  obtain ⟨sound, forward, orderly, stored, unclosed, begun, ordered⟩ := exchanging
  have spares := elapses.spares retains sound id
  have steps := Journal.steps_congr spares.held
  refine ⟨spares.sound sound, forward.onward spares.onward,
    orderly.carry spares.held spares.counted forward spares.onward, steps ▸ stored, unclosed, ?_,
    steps ▸ ordered⟩
  rw [steps]
  intro s member
  exact Timestamp.le_trans (begun s member) (forward.reading_le spares.onward)

/-- Both steps are closed with one write, and the others stay as they are. -/
theorem Exchanging.ended (exchanging : Exchanging c Sound id lines s t j)
    (retains : c.recorder.Retains Sound) (healthy : ¬ c.recorder.Falters Sound)
    (named : id.isBlank = false) (few : j.stepCount ≤ twoTo 128) (success : Bool) :
    Exchanged c Sound id (lines ++ [(s.participant, success), (t.participant, success)])
        (c.recorder.endSteps id [(some t.stepId, success), (some s.stepId, success)] j) ∧
      (c.recorder.endSteps id [(some t.stepId, success), (some s.stepId, success)] j).stepCount =
        j.stepCount := by
  obtain ⟨sound, forward, orderly, ⟨before, steps, shown⟩, unclosed, begun, ordered⟩ := exchanging
  have performed := Recorder.perform_spec retains sound orderly.named orderly.once
    (.close [(some t.stepId, success), (some s.stepId, success)])
  have answers := performed.answers named
  have onward := forward.reading_le performed.onward
  refine ⟨⟨performed.sound, forward.onward performed.onward,
    performed.orderly orderly forward (Nat.le_trans performed.most few), ?_, ?_, ?_⟩,
    (performed.done healthy named).counted⟩
  · unfold Recorder.endSteps
    -- the earlier steps were closed before, and the two that are new are named
    rw [performed.shown healthy named orderly, steps, List.map_append, List.map_append, ← shown]
    congr 1
    · refine List.map_congr_left fun a member => ?_
      rw [Option.or_of_isSome (isSome_of_shown shown member)]
      rfl
    · simp [unclosed.1, unclosed.2, Recorder.closing?_cons_some]
  · intro a member
    obtain ⟨b, found, answer⟩ := exists_of_forall₂ answers member
    rw [answer.startTime]
    exact Timestamp.le_trans (begun b found) onward
  · have same := map_eq_of_forall₂ answers (f := Step.startTime) (g := Step.startTime)
      fun _ _ answer => answer.startTime.symm
    exact same ▸ ordered

/-- What is read once exchanges have ended. -/
theorem Exchanged.traced (exchanged : Exchanged c Sound id lines j)
    (retains : c.recorder.Retains Sound) (healthy : ¬ c.recorder.Falters Sound) :
    (c.recorder.trace id j).1 = ⟨id, j.steps id⟩ := by
  rw [Recorder.trace_eq_sorted retains healthy exchanged.sound exchanged.orderly.named]
  exact RequestTrace.sorted_of_ordered exchanged.ordered

/-- Every step of an exchange that has ended has an end. -/
theorem Exchanged.lasts (exchanged : Exchanged c Sound id lines j) :
    ∀ s ∈ j.steps id, ∃ ended, s.endTime = some ended ∧ s.startTime ≤ ended := by
  intro s member
  have proper := exchanged.orderly.proper s member
  have closed : s.endTime.isSome = true :=
    proper.both.trans (isSome_of_shown exchanged.shown member)
  obtain ⟨ended, known⟩ := Option.isSome_iff_exists.1 closed
  exact ⟨ended, known, proper.ends ended known⟩

end Exchange

/-- A transport whose answers do not depend on the identifier of the request. -/
def Transport.Impartial (t : Transport) : Prop :=
  ∀ (recipient : RecipientId) (payload : Json) (id id' : RequestId),
    t.answer? recipient ⟨id, payload⟩ = t.answer? recipient ⟨id', payload⟩

theorem Transport.impartial_playback (p : Playback) : (Transport.playback p).Impartial :=
  fun _ _ _ _ => rfl

theorem Transport.Impartial.answer? {t : Transport} (impartial : t.Impartial)
    (recipient : RecipientId) (request : Request) : (t.answer? recipient request).2.Impartial := by
  cases t with
  | network n => exact impartial
  | playback p =>
    rcases answers : p.answers with _ | ⟨a, rest⟩
    · simp only [Transport.answer?, answers]
      exact impartial_playback _
    · simp only [Transport.answer?, answers]
      exact impartial_playback _

theorem World.transport_send (recipient : RecipientId) (request : Request) (limit : Nat) (w : World) :
    (w.send recipient request limit).2.transport = (w.transport.answer? recipient request).2 := by
  unfold send
  rcases w.transport.answer? recipient request with ⟨answer, t⟩
  cases answer with
  | none => rfl
  | some timed =>
    dsimp only
    split
    · rfl
    · rfl

namespace Coordinator

def dispatchAll (c : Coordinator) (timeout : Span) (id : RequestId) :
    List (RecipientId × Json) → World → List (Except Error String) × World
  | [], w => ([], w)
  | (recipient, payload) :: rest, w =>
    let (result, w) := c.dispatch timeout recipient ⟨id, payload⟩ w
    let (results, w) := c.dispatchAll timeout id rest w
    (result :: results, w)

/-- The lines that an exchange with some result adds to a trace; one that is refused adds none. -/
def exchangeLines (c : Coordinator) (id : RequestId) :
    (RecipientId × Json) × Except Error String → List (String × Bool)
  | ((recipient, payload), result) =>
    if (dispatchRefusal? recipient ⟨id, payload⟩).isSome then []
    else [(c.exchangeLabel, result.isOk), (recipient.text, result.isOk)]

section Recorded

variable {c : Coordinator} {Sound : Journal → Prop} {id : RequestId} {lines : List (String × Bool)}
  {w : World}

theorem dispatch_exchanged (exchanged : Exchanged c Sound id lines w.journal)
    (retains : c.recorder.Retains Sound) (healthy : ¬ c.recorder.Falters Sound)
    (named : id.isBlank = false) (few : w.journal.stepCount + 2 ≤ twoTo 128) (timeout : Span)
    (call : RecipientId × Json) :
    Exchanged c Sound id
        (lines ++ c.exchangeLines id (call, (c.dispatch timeout call.1 ⟨id, call.2⟩ w).1))
        (c.dispatch timeout call.1 ⟨id, call.2⟩ w).2.journal ∧
      (c.dispatch timeout call.1 ⟨id, call.2⟩ w).2.journal.stepCount ≤ w.journal.stepCount + 2 := by
  obtain ⟨recipient, payload⟩ := call
  rcases refused : dispatchRefusal? recipient ⟨id, payload⟩ with _ | refusal
  · obtain ⟨s, t, ours, theirs, answer, counted, exchanging⟩ :=
      exchanged.opened retains healthy named c.exchangeLabel recipient.text few
    have started : (c.startSteps id [c.exchangeLabel, recipient.text] w).1 =
        [some s.stepId, some t.stepId] := answer
    simp only [exchangeLines, dispatch, refused, started]
    generalize opened : (c.startSteps id [c.exchangeLabel, recipient.text] w).2 = v
    have counted : v.journal.stepCount = w.journal.stepCount + 2 := opened ▸ counted
    have exchanging : Exchanging c Sound id lines s t v.journal := opened ▸ exchanging
    have elapses := World.elapses_send recipient ⟨id, payload⟩ (v.now + timeout.millis) v
    generalize v.send recipient ⟨id, payload⟩ (v.now + timeout.millis) = sent at elapses ⊢
    obtain ⟨reply, u⟩ := sent
    have most : u.journal.stepCount = w.journal.stepCount + 2 := elapses.counted.trans counted
    obtain ⟨ended, kept⟩ := (exchanging.elapsed retains elapses).ended retains healthy named
      (most ▸ few) (exchangeResult recipient timeout reply).isOk
    rw [ours, theirs] at ended
    exact ⟨ended, Nat.le_of_eq (kept.trans most)⟩
  · rw [c.dispatch_of_refused timeout w refused]
    simp only [exchangeLines, refused, Option.isSome_some, ↓reduceIte, List.append_nil]
    exact ⟨exchanged, Nat.le_add_right _ _⟩

/-- The exchanges of a whole sequence leave their lines one behind the other. -/
theorem dispatchAll_exchanged (retains : c.recorder.Retains Sound)
    (healthy : ¬ c.recorder.Falters Sound) (named : id.isBlank = false) (timeout : Span)
    (calls : List (RecipientId × Json)) (exchanged : Exchanged c Sound id lines w.journal)
    (few : w.journal.stepCount + 2 * calls.length ≤ twoTo 128) :
    Exchanged c Sound id (lines ++ (calls.zip (c.dispatchAll timeout id calls w).1).flatMap
      (c.exchangeLines id)) (c.dispatchAll timeout id calls w).2.journal := by
  induction calls generalizing w lines with
  | nil =>
    rw [List.zip_nil_left, List.flatMap_nil, List.append_nil]
    exact exchanged
  | cons call rest ih =>
    rw [List.length_cons] at few
    obtain ⟨first, counted⟩ := dispatch_exchanged exchanged retains healthy named
      (Nat.le_trans (by omega) few) timeout call
    have later := ih first (Nat.le_trans (by omega) few)
    rw [List.append_assoc] at later
    exact later

end Recorded

section Told

variable (c : Coordinator) (timeout : Span)

theorem transport_dispatch {recipient : RecipientId} {request : Request} (w : World)
    (accepted : dispatchRefusal? recipient request = none) :
    (c.dispatch timeout recipient request w).2.transport =
      (w.transport.answer? recipient request).2 := by
  simp only [dispatch, accepted]
  exact World.transport_send recipient request _ _

/-- The answers decide what the caller is told, under whichever identifier and in whatever world. -/
theorem dispatch_same {w v : World} (same : w.transport = v.transport)
    (impartial : w.transport.Impartial) (id id' : RequestId) (recipient : RecipientId)
    (payload : Json) :
    (c.dispatch timeout recipient ⟨id, payload⟩ w).1 =
        (c.dispatch timeout recipient ⟨id', payload⟩ v).1 ∧
      (c.dispatch timeout recipient ⟨id, payload⟩ w).2.transport =
        (c.dispatch timeout recipient ⟨id', payload⟩ v).2.transport ∧
      (c.dispatch timeout recipient ⟨id, payload⟩ w).2.transport.Impartial := by
  have answers := impartial recipient payload id id'
  rcases refused : dispatchRefusal? recipient ⟨id, payload⟩ with _ | refusal
  · have refused' : dispatchRefusal? recipient ⟨id', payload⟩ = none := refused
    rw [c.dispatch_result timeout w refused, c.dispatch_result timeout v refused',
      c.transport_dispatch timeout w refused, c.transport_dispatch timeout v refused', ← same, answers]
    exact ⟨rfl, rfl, impartial.answer? _ _⟩
  · have refused' : dispatchRefusal? recipient ⟨id', payload⟩ = some refusal := refused
    rw [c.dispatch_of_refused timeout w refused, c.dispatch_of_refused timeout v refused']
    exact ⟨rfl, same, impartial⟩

theorem dispatchAll_same (calls : List (RecipientId × Json)) {w v : World}
    (same : w.transport = v.transport) (impartial : w.transport.Impartial) (id id' : RequestId) :
    (c.dispatchAll timeout id calls w).1 = (c.dispatchAll timeout id' calls v).1 := by
  induction calls generalizing w v with
  | nil => rfl
  | cons call rest ih =>
    obtain ⟨told, same, impartial⟩ := c.dispatch_same timeout same impartial id id' call.1 call.2
    exact congrArg₂ List.cons told (ih same impartial)

end Told

theorem journal_startSteps_of_blank {c : Coordinator} {id : RequestId} (blank : id.isBlank = true)
    (participants : List String) (w : World) : (c.startSteps id participants w).2.journal = w.journal :=
  congrArg Prod.snd (Recorder.startSteps_of_blank blank participants w.journal)

/-- Nothing is recorded of an exchange of a blank request; only time passes. -/
theorem elapses_dispatch_of_blank (c : Coordinator) (timeout : Span) (recipient : RecipientId)
    (request : Request) (blank : request.requestId.isBlank = true) (w : World) :
    w.journal.Elapses (c.dispatch timeout recipient request w).2.journal := by
  rcases refused : dispatchRefusal? recipient request with _ | refusal
  · simp only [dispatch, refused]
    have same := journal_startSteps_of_blank (c := c) blank [c.exchangeLabel, recipient.text] w
    generalize c.startSteps request.requestId [c.exchangeLabel, recipient.text] w = started at same ⊢
    obtain ⟨steps, v⟩ := started
    dsimp only at same ⊢
    have elapses := World.elapses_send recipient request (v.now + timeout.millis) v
    generalize v.send recipient request (v.now + timeout.millis) = sent at elapses ⊢
    obtain ⟨reply, u⟩ := sent
    rw [endSteps, World.recording, Recorder.endSteps_of_blank blank, ← same]
    exact elapses
  · rw [c.dispatch_of_refused timeout w refused]
    exact .refl _

theorem elapses_dispatchAll_of_blank (c : Coordinator) (timeout : Span) {id : RequestId}
    (blank : id.isBlank = true) (calls : List (RecipientId × Json)) (w : World) :
    w.journal.Elapses (c.dispatchAll timeout id calls w).2.journal := by
  induction calls generalizing w with
  | nil => exact .refl _
  | cons call rest ih =>
    have first := c.elapses_dispatch_of_blank timeout call.1 ⟨id, call.2⟩ blank w
    exact first.trans (ih _)

theorem length_dispatchAll (c : Coordinator) (timeout : Span) (id : RequestId)
    (calls : List (RecipientId × Json)) (w : World) :
    (c.dispatchAll timeout id calls w).1.length = calls.length := by
  induction calls generalizing w with
  | nil => rfl
  | cons call rest ih => exact congrArg (· + 1) (ih _)

/--
Over a store that neither fails nor loses anything, under a clock that never goes back, the trace of
a request shows two closed steps for each of its exchanges that was not refused, in the order of the
calls, with the success that the call reported. If the request has no name the callers are told the
same, as long as the transport answers the same, and nothing is recorded.
-/
theorem exchanges_leave_two_steps_each (c : Coordinator) (timeout : Span)
    (calls : List (RecipientId × Json)) (w : World) :
    (∀ (Sound : Journal → Prop) (id : RequestId), c.recorder.Retains Sound →
      ¬ c.recorder.Falters Sound → Sound w.journal → w.clock.Forward → id.isBlank = false →
      w.journal.held id = none → w.journal.stepCount + 2 * calls.length ≤ twoTo 128 →
      ∃ results after, c.dispatchAll timeout id calls w = (results, after) ∧
        results.length = calls.length ∧ (c.trace id after).1.requestId = id ∧
        (c.trace id after).1.steps.map Step.shown =
          ((calls.zip results).flatMap (c.exchangeLines id)).map (fun l => (l.1, some l.2)) ∧
        ∀ s ∈ (c.trace id after).1.steps, ∃ ended, s.endTime = some ended ∧ s.startTime ≤ ended) ∧
    ∀ id blank : RequestId, blank.isBlank = true → w.transport.Impartial →
      (c.dispatchAll timeout blank calls w).1 = (c.dispatchAll timeout id calls w).1 ∧
        (c.dispatchAll timeout blank calls w).2.journal.store = w.journal.store ∧
        (c.dispatchAll timeout blank calls w).2.journal.stepCount = w.journal.stepCount := by
  constructor
  · intro Sound id retains healthy sound forward named fresh few
    have exchanged := dispatchAll_exchanged retains healthy named timeout calls
      (.fresh sound forward fresh) few
    have traced : (c.trace id (c.dispatchAll timeout id calls w).2).1 = _ :=
      exchanged.traced retains healthy
    refine ⟨_, _, rfl, c.length_dispatchAll timeout id calls w, ?_⟩
    rw [traced]
    exact ⟨rfl, exchanged.shown, exchanged.lasts⟩
  · intro id blank unnamed impartial
    have elapses := c.elapses_dispatchAll_of_blank timeout unnamed calls w
    exact ⟨c.dispatchAll_same timeout calls rfl impartial blank id, elapses.store, elapses.counted⟩

end Coordinator

def World.exchangesRehearsal : World :=
  { rehearsal [.stall 3] with
    transport := .playback ⟨[⟨20, .ok (.payload (.string "yes"))⟩, ⟨0, .ok (.rejected "no")⟩,
      ⟨1, .ok (.payload (.bool true))⟩, ⟨2, .error (.transport "down")⟩], []⟩ }

def Coordinator.callsRehearsal : List (RecipientId × Json) :=
  [(⟨"a"⟩, .string "hi"), (⟨" "⟩, .string "hi"), (⟨"b"⟩, .string "hi"), (⟨"a"⟩, .bool false),
    (⟨"c"⟩, .string "hi"), (⟨"d"⟩, .string "hi")]

theorem Coordinator.exchanges_leave_two_steps_each_rehearsal :
    (rehearsal.trace ⟨"r"⟩ (rehearsal.dispatchAll (Span.ofMillis 20) ⟨"r"⟩ callsRehearsal
        World.exchangesRehearsal).2).1.steps.map Step.shown =
      [("desk:exchange", some true), ("a", some true), ("desk:exchange", some false),
        ("b", some false), ("desk:exchange", some false), ("a", some false),
        ("desk:exchange", some false), ("c", some false), ("desk:exchange", some false),
        ("d", some false)] ∧
    (rehearsal.dispatchAll (Span.ofMillis 20) ⟨""⟩ callsRehearsal World.exchangesRehearsal).1 =
      (rehearsal.dispatchAll (Span.ofMillis 20) ⟨"r"⟩ callsRehearsal World.exchangesRehearsal).1 ∧
    (rehearsal.dispatchAll (Span.ofMillis 20) ⟨""⟩ callsRehearsal
      World.exchangesRehearsal).2.journal.stepCount = 0 := by
  obtain ⟨recorded, told⟩ := rehearsal.exchanges_leave_two_steps_each (Span.ofMillis 20)
    callsRehearsal World.exchangesRehearsal
  obtain ⟨results, after, run, -, -, shown, -⟩ := recorded rehearsal.recorder.Healthy ⟨"r"⟩
    (Recorder.retains_healthy _) (Recorder.not_falters_healthy _)
    (World.healthy_rehearsal (by decide)) (World.forward_rehearsal _) (by decide)
    (World.held_rehearsal _ _) (by decide)
  obtain ⟨same, -, counted⟩ := told ⟨"r"⟩ ⟨""⟩ (by decide) (Transport.impartial_playback _)
  have lines : (callsRehearsal.zip (rehearsal.dispatchAll (Span.ofMillis 20) ⟨"r"⟩ callsRehearsal
      World.exchangesRehearsal).1).flatMap (rehearsal.exchangeLines ⟨"r"⟩) =
      [("desk:exchange", true), ("a", true), ("desk:exchange", false), ("b", false),
        ("desk:exchange", false), ("a", false), ("desk:exchange", false), ("c", false),
        ("desk:exchange", false), ("d", false)] := by decide +kernel
  rw [run] at lines ⊢
  rw [lines] at shown
  exact ⟨shown, run ▸ same, counted⟩

end RollCall
