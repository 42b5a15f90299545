import Mathlib.Data.List.Dedup
import RollCall.Trace.Recorder

set_option autoImplicit false

/-!
Opening steps and closing steps in a list. New steps have new identifiers; when steps are closed
their identifiers stay as they are, and what was open and is not among the identifiers to close
stays open.
-/
namespace RollCall

namespace RequestTrace

def openIds (steps : List Step) : List StepId := (steps.filter Step.isOpen).map Step.stepId

variable {steps : List Step} {now : Timestamp}

@[simp] theorem openIds_nil : openIds [] = [] := rfl

theorem openIds_cons (s : Step) (rest : List Step) :
    openIds (s :: rest) = if s.isOpen then s.stepId :: openIds rest else openIds rest := by
  unfold openIds
  rw [List.filter_cons]
  split <;> rfl

@[simp] theorem openIds_append (steps later : List Step) :
    openIds (steps ++ later) = openIds steps ++ openIds later := by
  simp [openIds]

theorem mem_of_mem_openIds {id : StepId} (member : id ∈ openIds steps) :
    id ∈ steps.map Step.stepId := by
  obtain ⟨s, isOpen, rfl⟩ := List.mem_map.1 member
  exact List.mem_map_of_mem (List.mem_filter.1 isOpen).1

/-- A step that is listed and is not open is closed. -/
theorem exists_closed_iff (once : (steps.map Step.stepId).Nodup) (id : StepId) :
    (∃ s ∈ steps, s.stepId = id ∧ s.isOpen = false) ↔
      id ∈ steps.map Step.stepId ∧ id ∉ openIds steps := by
  constructor
  · intro found
    obtain ⟨s, member, rfl, closed⟩ := found
    refine ⟨List.mem_map_of_mem member, ?_⟩
    intro stillOpen
    obtain ⟨t, isOpen, same⟩ := List.mem_map.1 stillOpen
    obtain ⟨listed, isOpen⟩ := List.mem_filter.1 isOpen
    have equal := List.inj_on_of_nodup_map once listed member same
    rw [equal, closed] at isOpen
    cases isOpen
  · intro listed
    obtain ⟨member, closed⟩ := listed
    obtain ⟨s, listed, rfl⟩ := List.mem_map.1 member
    refine ⟨s, listed, rfl, ?_⟩
    cases isOpen : s.isOpen with
    | false => rfl
    | true => exact absurd (List.mem_map_of_mem (List.mem_filter.2 ⟨listed, isOpen⟩)) closed

@[simp] theorem stepIds_closeStep (id : StepId) (success : Bool) :
    (closeStep steps id now success).map Step.stepId = steps.map Step.stepId := by
  induction steps with
  | nil => rfl
  | cons s rest ih =>
    rw [closeStep]
    split
    · simp
    · simp [ih]

theorem openIds_closeStep (once : (steps.map Step.stepId).Nodup) (id : StepId) (success : Bool) :
    openIds (closeStep steps id now success) = (openIds steps).filter (· ≠ id) := by
  induction steps with
  | nil => rfl
  | cons s rest ih =>
    rw [List.map_cons, List.nodup_cons] at once
    obtain ⟨fresh, onceLater⟩ := once
    rw [closeStep, openIds_cons s rest]
    split
    · rename_i same
      subst same
      have others : (openIds rest).filter (· ≠ s.stepId) = openIds rest := by
        rw [List.filter_eq_self]
        intro x stillOpen
        rw [decide_eq_true_iff]
        intro same
        rw [same] at stillOpen
        exact fresh (mem_of_mem_openIds stillOpen)
      rw [openIds_cons, Step.isOpen_close]
      split
      · rename_i closed
        cases closed
      · split
        · rw [List.filter_cons_of_neg (by simp), others]
        · rw [others]
    · rename_i different
      rw [openIds_cons, ih onceLater]
      split
      · rw [List.filter_cons_of_pos (by simpa using different)]
      · rfl

end RequestTrace

namespace Recorder

open RequestTrace

variable {steps : List Step} {clock : Clock}

@[simp] theorem stepIds_closeAll (closes : List (Option StepId × Bool)) :
    (closeAll closes steps clock).1.map Step.stepId = steps.map Step.stepId := by
  induction closes generalizing steps clock with
  | nil => rfl
  | cons close rest ih =>
    obtain ⟨_ | id, success⟩ := close
    · exact ih
    · rw [closeAll]
      simp only
      rw [ih, stepIds_closeStep]

/-- The steps that are named are closed, and no others. -/
theorem openIds_closeAll (once : (steps.map Step.stepId).Nodup)
    (closes : List (Option StepId × Bool)) :
    openIds (closeAll closes steps clock).1 =
      (openIds steps).filter (· ∉ closes.filterMap Prod.fst) := by
  induction closes generalizing steps clock with
  | nil => exact (List.filter_eq_self.2 (by simp)).symm
  | cons close rest ih =>
    obtain ⟨_ | id, success⟩ := close
    · exact ih once
    · have onceLater :
          ((closeStep steps id clock.reading success).map Step.stepId).Nodup := by
        rw [stepIds_closeStep]
        exact once
      rw [closeAll]
      simp only
      rw [ih onceLater, openIds_closeStep once, List.filter_filter]
      apply List.filter_congr
      intro x _
      rw [Bool.and_comm]
      simp

/-- Closing takes readings of the clock, and no time. -/
theorem clock_closeAll (closes : List (Option StepId × Bool)) (steps : List Step) (clock : Clock) :
    ∃ n, (closeAll closes steps clock).2.2 = { clock with taken := clock.taken + n } := by
  induction closes generalizing steps clock with
  | nil => exact ⟨0, rfl⟩
  | cons close rest ih =>
    obtain ⟨_ | id, success⟩ := close
    · exact ih steps clock
    · rw [closeAll]
      simp only
      split
      · obtain ⟨n, taken⟩ := ih (closeStep steps id clock.reading success) clock.tick
        exact ⟨1 + n, by rw [taken, Clock.tick, Nat.add_assoc]⟩
      · exact ih (closeStep steps id clock.reading success) clock

end Recorder

namespace Journal

/-- Steps are opened by taking a reading of the clock and an identifier for each. -/
theorem snd_openAll (participants : List String) (j : Journal) :
    (j.openAll participants).2 =
      { j with
        clock := { j.clock with taken := j.clock.taken + participants.length }
        stepCount := j.stepCount + participants.length } := by
  induction participants generalizing j with
  | nil => rfl
  | cons participant rest ih =>
    rw [openAll]
    simp only
    rw [ih, List.length_cons, Clock.tick, Nat.add_assoc, Nat.add_assoc, Nat.add_comm 1]

theorem participants_openAll (participants : List String) (j : Journal) :
    (j.openAll participants).1.map Step.participant = participants := by
  induction participants generalizing j with
  | nil => rfl
  | cons participant rest ih =>
    rw [openAll]
    simp only [List.map_cons]
    rw [ih]
    rfl

theorem stepIds_openAll (participants : List String) (j : Journal) :
    (j.openAll participants).1.map Step.stepId = j.freshIds participants.length := by
  induction participants generalizing j with
  | nil => rfl
  | cons participant rest ih =>
    rw [openAll]
    simp only [List.map_cons]
    rw [ih, freshIds, freshIds, List.length_cons, List.range_succ_eq_map, List.map_cons,
      List.map_map]
    refine congrArg (_ :: ·) (List.map_congr_left ?_)
    intro i _
    show stepId (j.stepCount + 1 + i) = stepId (j.stepCount + (i + 1))
    rw [Nat.add_assoc, Nat.add_comm 1 i]

theorem length_openAll (participants : List String) (j : Journal) :
    (j.openAll participants).1.length = participants.length := by
  rw [← List.length_map (f := Step.participant), participants_openAll]

end Journal

end RollCall
