import RollCall.Proofs.Closing

set_option autoImplicit false

/-!
Instants of the calendar. A trace whose instants the calendar has keeps only such instants under all
that the recorder makes of it, as long as the clock shows no others.
-/
namespace RollCall

structure Step.Dated (s : Step) : Prop where
  start : s.startTime.inCalendar = true
  finish : ∀ t ∈ s.endTime, t.inCalendar = true

def RequestTrace.Dated (t : RequestTrace) : Prop := ∀ s ∈ t.steps, s.Dated

def Recording.Dated : Recording → Prop
  | .finished _ startTime _ => startTime.inCalendar = true
  | _ => True

theorem Recording.Dated.start (participants : List String) : Dated (.start participants) := trivial

theorem Recording.Dated.close (closes : List (Option StepId × Bool)) : Dated (.close closes) := trivial

theorem Recording.Dated.finished {startTime : Timestamp} (known : startTime.inCalendar = true)
    (participant : String) (success : Bool) : Dated (.finished participant startTime success) :=
  known

def Clock.Dated (c : Clock) : Prop := ∀ n, (c.readings n).inCalendar = true

theorem Clock.Dated.onward {c d : Clock} (dated : c.Dated) (onward : c.Onward d) : d.Dated :=
  fun n => onward.readings ▸ dated n

/-- A clock that never goes back and shows instants of the calendar. -/
structure Clock.Steady (c : Clock) : Prop where
  forward : c.Forward
  known : c.Dated

theorem Clock.Steady.onward {c d : Clock} (steady : c.Steady) (onward : c.Onward d) : d.Steady :=
  ⟨steady.forward.onward onward, steady.known.onward onward⟩

variable {now : Timestamp}

theorem Step.Dated.close {s : Step} (dated : s.Dated) (known : now.inCalendar = true)
    (success : Bool) : (s.close now success).Dated := by
  unfold Step.close
  split
  · exact ⟨dated.start, fun t ends => by cases ends; exact known⟩
  · exact dated

theorem Step.dated_finished (id : StepId) (participant : String) {startTime : Timestamp}
    (start : startTime.inCalendar = true) (known : now.inCalendar = true) (success : Bool) :
    (Step.finished id participant startTime now success).Dated := by
  refine ⟨start, fun t ends => ?_⟩
  cases ends
  unfold Timestamp.latest
  split
  · exact known
  · exact start

namespace RequestTrace

theorem dated_empty (id : RequestId) : (empty id).Dated :=
  fun _ member => (List.not_mem_nil member).elim

theorem dated_append {id : RequestId} {o : Option RequestTrace} (held : ∀ t ∈ o, t.Dated)
    {steps : List Step} (dated : ∀ s ∈ steps, s.Dated) :
    ((o.getD (empty id)).append steps).Dated := by
  have first : (o.getD (empty id)).Dated := by
    cases o with
    | none => exact dated_empty id
    | some t => exact held t rfl
  intro s member
  exact (List.mem_append.1 member).elim (first s) (dated s)

theorem dated_closeStep {steps : List Step} (dated : ∀ s ∈ steps, s.Dated)
    (known : now.inCalendar = true) (id : StepId) (success : Bool) :
    ∀ s ∈ closeStep steps id now success, s.Dated := by
  induction steps with
  | nil => exact dated
  | cons s rest ih =>
    rw [List.forall_mem_cons] at dated
    rw [closeStep]
    split
    · exact List.forall_mem_cons.2 ⟨dated.1.close known success, dated.2⟩
    · exact List.forall_mem_cons.2 ⟨dated.1, ih dated.2⟩

end RequestTrace

theorem Recorder.dated_closeAll (closes : List (Option StepId × Bool)) {steps : List Step}
    {clock : Clock} (known : clock.Dated) (dated : ∀ s ∈ steps, s.Dated) :
    ∀ s ∈ (closeAll closes steps clock).1, s.Dated := by
  induction closes generalizing steps clock with
  | nil => exact dated
  | cons close rest ih =>
    obtain ⟨_ | id, success⟩ := close
    · exact ih known dated
    · have closed := RequestTrace.dated_closeStep dated (known clock.taken) id success
      rw [closeAll]
      simp only
      split
      · exact ih (known.onward (Clock.onward_tick clock)) closed
      · exact ih known closed

theorem Journal.dated_openAll (participants : List String) {j : Journal} (known : j.clock.Dated) :
    ∀ s ∈ (j.openAll participants).1, s.Dated := by
  induction participants generalizing j with
  | nil => exact fun s member => (List.not_mem_nil member).elim
  | cons participant rest ih =>
    refine List.forall_mem_cons.2 ⟨⟨known _, fun t ends => by cases ends⟩, ?_⟩
    exact ih (j := { j with clock := j.clock.tick, stepCount := j.stepCount + 1 })
      (known.onward (Clock.onward_tick j.clock))

end RollCall
