import RollCall.Coordinator
import RollCall.Proofs.Steps

set_option autoImplicit false

/-!
What a use of the recorder leaves alone. It answers with one identifier for each step, touches
nothing but the journal, and takes no time when the store takes none.
-/
namespace RollCall

def Draft.answer : Draft → List (Option StepId)
  | .settled answer => answer
  | .pending _ answer => answer

namespace Recorder

theorem length_commit (r : Recorder) (d : Draft) (j : Journal) :
    (r.commit d j).1.length = d.answer.length := by
  cases d with
  | settled answer => rfl
  | pending trace answer =>
    dsimp only [commit]
    split
    · simp [Draft.answer]
    · rfl

theorem length_draftSteps (r : Recorder) (id : RequestId) (steps : List Step) (j : Journal) :
    (r.draftSteps id steps j).1.answer.length = steps.length := by
  unfold draftSteps
  split <;> simp [Draft.answer]

/-- Every participant gets an answer, whatever becomes of the store. -/
theorem length_startSteps (r : Recorder) (id : RequestId) (participants : List String)
    (j : Journal) : (r.startSteps id participants j).1.length = participants.length := by
  unfold startSteps perform
  rw [length_commit]
  dsimp only [draft]
  split
  · simp [Draft.answer]
  · rw [length_draftSteps, Journal.length_openAll]

/-- Nothing is opened for a blank request, and nobody gets an identifier. -/
theorem startSteps_of_blank {r : Recorder} {id : RequestId} (blank : id.isBlank = true)
    (participants : List String) (j : Journal) :
    r.startSteps id participants j = (participants.map fun _ => none, j) := by
  simp [startSteps, perform, draft, blank, commit]

theorem endSteps_of_blank {r : Recorder} {id : RequestId} (blank : id.isBlank = true)
    (closes : List (Option StepId × Bool)) (j : Journal) : r.endSteps id closes j = j := by
  simp [endSteps, perform, draft, blank, commit]

/-- An operation of the store either ends before it is carried out or also reads the clock. -/
inductive Touches (r : Recorder) (j : Journal) : Journal → Prop
  | entered : Touches r j (r.enter j).2
  | carriedOut (store : TraceStore) (broken : Bool)
      (script : store.script = (r.enter j).2.store.script) :
      Touches r j { (r.enter j).2 with
        clock := (r.enter j).2.clock.tick, store := store, brokenOff := broken }

theorem script_load (s : TraceStore) (id : RequestId) (now : Timestamp) :
    (s.load id now).2.script = s.script := by
  unfold TraceStore.load
  split
  · rfl
  · split
    · rfl
    · rfl

theorem script_save (s : TraceStore) (trace : RequestTrace) (ttl : Span) (now : Timestamp) :
    (s.save trace ttl now).2.script = s.script := by
  unfold TraceStore.save
  split
  · split
    · rfl
    · rfl
  · split
    · rfl
    · rfl

theorem load_touches (r : Recorder) (id : RequestId) (j : Journal) :
    Touches r j (r.load id j).2 := by
  have halted := Touches.entered (r := r) (j := j)
  have whole := Touches.carriedOut (r := r) (j := j) _ (r.enter j).2.brokenOff
    (script_load (r.enter j).2.store id (r.enter j).2.clock.reading)
  unfold load
  rcases equal : r.enter j with ⟨admission, k⟩
  rw [equal] at halted whole
  cases admission with
  | failed f => exact halted
  | carriedOut => exact whole

theorem save_touches (r : Recorder) (trace : RequestTrace) (j : Journal) :
    Touches r j (r.save trace j).2 := by
  have halted := Touches.entered (r := r) (j := j)
  have whole (broken : Bool) := Touches.carriedOut (r := r) (j := j) _ broken
    (script_save (r.enter j).2.store trace r.ttl (r.enter j).2.clock.reading)
  unfold save
  rcases equal : r.enter j with ⟨admission, k⟩
  rw [equal] at halted whole
  cases admission with
  | failed f => exact halted
  | carriedOut => exact whole _

theorem snd_draftSteps (r : Recorder) (id : RequestId) (steps : List Step) (j : Journal) :
    (r.draftSteps id steps j).2 = (r.load id j).2 := by
  unfold draftSteps
  rcases r.load id j with ⟨found, k⟩
  cases found with
  | error f => rfl
  | ok found => rfl

theorem snd_commit_pending (r : Recorder) (trace : RequestTrace) (answer : List (Option StepId))
    (j : Journal) : (r.commit (.pending trace answer) j).2 = (r.save trace j).2 := by
  dsimp only [commit]
  rcases r.save trace j with ⟨done, k⟩
  cases done with
  | error f => rfl
  | ok u => rfl

/-- Reading for a close leaves what the load left, but for readings of the clock. -/
theorem snd_draft_close (r : Recorder) (id : RequestId) (closes : List (Option StepId × Bool))
    (j : Journal) :
    (r.draft id (.close closes) j).2 = j ∨ ∃ n, (r.draft id (.close closes) j).2 =
      { (r.load id j).2 with
        clock := { (r.load id j).2.clock with taken := (r.load id j).2.clock.taken + n } } := by
  dsimp only [draft]
  split
  · exact Or.inl rfl
  · right
    rcases r.load id j with ⟨found, k⟩
    cases found with
    | error f => exact ⟨0, rfl⟩
    | ok found =>
      cases found with
      | none => exact ⟨0, rfl⟩
      | some trace =>
        obtain ⟨n, taken⟩ := clock_closeAll closes trace.steps k.clock
        dsimp only
        split
        · exact ⟨n, congrArg (fun c => { k with clock := c }) taken⟩
        · exact ⟨0, rfl⟩

/-- Readings and identifiers may have been taken, but no operation of the store has begun. -/
structure Idles (j j' : Journal) : Prop where
  script : j'.store.script = j.store.script
  moment : j'.clock.moment = j.clock.moment
  readings : j'.clock.readings = j.clock.readings

theorem Idles.refl (j : Journal) : Idles j j := ⟨rfl, rfl, rfl⟩

/-- A draft takes one operation of the store, if it takes any. -/
theorem draft_reads (r : Recorder) (id : RequestId) (a : Recording) (j : Journal) :
    ∃ k l, Idles j k ∧ (l = k ∨ Touches r k l) ∧ Idles l (r.draft id a j).2 := by
  cases a with
  | start participants =>
    dsimp only [draft]
    split
    · exact ⟨j, j, Idles.refl j, Or.inl rfl, Idles.refl j⟩
    · have counted : Idles j (j.openAll participants).2 := by
        rw [Journal.snd_openAll]
        exact ⟨rfl, rfl, rfl⟩
      rw [snd_draftSteps]
      exact ⟨_, _, counted, Or.inr (load_touches r id _), Idles.refl _⟩
  | finished participant startTime success =>
    dsimp only [draft]
    split
    · exact ⟨j, j, Idles.refl j, Or.inl rfl, Idles.refl j⟩
    · have counted : Idles j { j with clock := j.clock.tick, stepCount := j.stepCount + 1 } :=
        ⟨rfl, rfl, rfl⟩
      rw [snd_draftSteps]
      exact ⟨_, _, counted, Or.inr (load_touches r id _), Idles.refl _⟩
  | close closes =>
    have loaded := load_touches r id j
    rcases snd_draft_close r id closes j with same | ⟨n, read⟩
    · rw [same]
      exact ⟨j, j, Idles.refl j, Or.inl rfl, Idles.refl j⟩
    · rw [read]
      exact ⟨j, _, Idles.refl j, Or.inr loaded, ⟨rfl, rfl, rfl⟩⟩

/-- A commit takes one operation of the store, if it takes any. -/
theorem commit_writes (r : Recorder) (d : Draft) (j : Journal) :
    (r.commit d j).2 = j ∨ Touches r j (r.commit d j).2 := by
  cases d with
  | settled answer => exact Or.inl rfl
  | pending trace answer =>
    rw [snd_commit_pending]
    exact Or.inr (save_touches r trace j)

def IsPrompt (r : Recorder) (j : Journal) : Prop :=
  ∀ d ∈ j.store.script.getD [], (TraceStore.admission r.storeTimeout.millis d).2 = 0

/-- From one journal to another no time has passed, if the store takes none. -/
def Timeless (r : Recorder) (j j' : Journal) : Prop :=
  r.IsPrompt j → r.IsPrompt j' ∧ j'.clock.moment = j.clock.moment

variable {r : Recorder}

theorem Timeless.refl (j : Journal) : r.Timeless j j := fun prompt => ⟨prompt, rfl⟩

theorem Timeless.trans {j k l : Journal} (first : r.Timeless j k) (second : r.Timeless k l) :
    r.Timeless j l := by
  intro prompt
  obtain ⟨promptMiddle, sameMiddle⟩ := first prompt
  obtain ⟨promptEnd, sameEnd⟩ := second promptMiddle
  exact ⟨promptEnd, sameEnd.trans sameMiddle⟩

theorem Idles.timeless {j j' : Journal} (idles : Idles j j') : r.Timeless j j' := by
  intro prompt
  refine ⟨?_, idles.moment⟩
  unfold IsPrompt
  rw [idles.script]
  exact prompt

theorem enter_timeless (r : Recorder) (j : Journal) : r.Timeless j (r.enter j).2 := by
  intro prompt
  unfold IsPrompt at prompt
  cases script : j.store.script with
  | none => simp [enter, TraceStore.nextAdmission, script, IsPrompt]
  | some entries =>
    cases entries with
    | nil => simp [enter, TraceStore.nextAdmission, script, IsPrompt]
    | cons d rest =>
      rw [script] at prompt
      have instant : (TraceStore.admission r.storeTimeout.millis d).2 = 0 := prompt d (by simp)
      refine ⟨?_, ?_⟩
      · intro e member
        exact prompt e (by simpa [enter, TraceStore.nextAdmission, script] using Or.inr member)
      · simp [enter, TraceStore.nextAdmission, script, instant]

theorem Touches.timeless {j k : Journal} (touches : Touches r j k) : r.Timeless j k := by
  have entered := enter_timeless r j
  cases touches with
  | entered => exact entered
  | carriedOut store broken script =>
    have ticked : Idles (r.enter j).2
        { (r.enter j).2 with
          clock := (r.enter j).2.clock.tick, store := store, brokenOff := broken } :=
      ⟨script, rfl, rfl⟩
    exact entered.trans ticked.timeless

theorem draft_timeless (r : Recorder) (id : RequestId) (a : Recording) (j : Journal) :
    r.Timeless j (r.draft id a j).2 := by
  obtain ⟨k, l, before, read, after⟩ := draft_reads r id a j
  rcases read with rfl | touches
  · exact before.timeless.trans after.timeless
  · exact before.timeless.trans (touches.timeless.trans after.timeless)

theorem commit_timeless (r : Recorder) (d : Draft) (j : Journal) :
    r.Timeless j (r.commit d j).2 := by
  rcases commit_writes r d j with same | touches
  · rw [same]
    exact Timeless.refl j
  · exact touches.timeless

theorem perform_timeless (r : Recorder) (id : RequestId) (a : Recording) (j : Journal) :
    r.Timeless j (r.perform id a j).2 :=
  (draft_timeless r id a j).trans (commit_timeless r _ _)

end Recorder

namespace Coordinator

variable (c : Coordinator) (id : RequestId)

@[simp] theorem calls_endStep (step : Option StepId) (success : Bool) (w : World) :
    (c.endStep id step success w).calls = w.calls := rfl

theorem startSteps_timeless (participants : List String) (w : World) :
    c.recorder.Timeless w.journal (c.startSteps id participants w).2.journal :=
  Recorder.perform_timeless c.recorder id (.start participants) w.journal

theorem endSteps_timeless (closes : List (Option StepId × Bool)) (w : World) :
    c.recorder.Timeless w.journal (c.endSteps id closes w).journal :=
  Recorder.perform_timeless c.recorder id (.close closes) w.journal

theorem endStep_timeless (step : Option StepId) (success : Bool) (w : World) :
    c.recorder.Timeless w.journal (c.endStep id step success w).journal :=
  endSteps_timeless c id [(step, success)] w

/-- Over a store that takes no time a step is closed at once. -/
theorem now_endStep {w : World} (prompt : c.recorder.IsPrompt w.journal) (step : Option StepId)
    (success : Bool) : (c.endStep id step success w).now = w.now :=
  congrArg Moment.ms (c.endStep_timeless id step success w prompt).2

end Coordinator

end RollCall
