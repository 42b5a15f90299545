import Mathlib.Data.List.Forall2
import RollCall.Proofs.Steps

set_option autoImplicit false

/-!
Closing steps in a list, step by step. A step that is named in a batch is closed by the first entry
that names it, unless it was closed before; every other step stays as it is.
-/
namespace RollCall

section Pairs

variable {α β γ : Type} {R : α → β → Prop} {l : List α} {u : List β}

theorem map_eq_of_forall₂ {f : α → γ} {g : β → γ} (related : List.Forall₂ R l u)
    (same : ∀ a b, R a b → f a = g b) : l.map f = u.map g := by
  induction related with
  | nil => rfl
  | cons first _ ih => rw [List.map_cons, List.map_cons, same _ _ first, ih]

theorem eq_of_forall₂ {S : α → α → Prop} {m : List α} (related : List.Forall₂ S l m)
    (same : ∀ a b, S a b → a = b) : l = m := by
  have equal := related.imp same
  rwa [List.forall₂_eq_eq_eq] at equal

theorem exists_of_forall₂ (related : List.Forall₂ R l u) {b : β} (member : b ∈ u) :
    ∃ a ∈ l, R a b := by
  induction related with
  | nil => cases member
  | cons first _ ih =>
    rcases List.mem_cons.1 member with rfl | later
    · exact ⟨_, List.mem_cons_self, first⟩
    · obtain ⟨a, found, holds⟩ := ih later
      exact ⟨a, List.mem_cons_of_mem _ found, holds⟩

theorem split_of_forall₂_append {m : List α} {n : List β} (related : List.Forall₂ R (l ++ m) n) :
    ∃ before after, n = before ++ after ∧ List.Forall₂ R l before ∧ List.Forall₂ R m after := by
  induction l generalizing n with
  | nil => exact ⟨[], n, rfl, List.Forall₂.nil, related⟩
  | cons a rest ih =>
    cases related with
    | cons head later =>
      obtain ⟨before, after, rfl, first, second⟩ := ih later
      exact ⟨_ :: before, after, rfl, List.Forall₂.cons head first, second⟩

theorem forall₂_and_right {p : β → Prop} (related : List.Forall₂ R l u) (all : ∀ b ∈ u, p b) :
    List.Forall₂ (fun a b => R a b ∧ p b) l u := by
  induction related with
  | nil => exact List.Forall₂.nil
  | cons first _ ih =>
    exact List.Forall₂.cons ⟨first, all _ List.mem_cons_self⟩
      (ih fun b member => all b (List.mem_cons_of_mem _ member))

end Pairs

namespace Clock

structure Onward (c d : Clock) : Prop where
  readings : d.readings = c.readings
  taken : c.taken ≤ d.taken

variable {c d e : Clock}

theorem Onward.refl (c : Clock) : c.Onward c := ⟨rfl, Nat.le_refl _⟩

theorem Onward.trans (first : c.Onward d) (second : d.Onward e) : c.Onward e :=
  ⟨second.readings.trans first.readings, Nat.le_trans first.taken second.taken⟩

@[simp] theorem taken_waitUntil (c : Clock) (t : Nat) : (c.waitUntil t).taken = c.taken := by
  unfold waitUntil
  split <;> rfl

@[simp] theorem taken_wait (c : Clock) (ms : Nat) : (c.wait ms).taken = c.taken :=
  taken_waitUntil c _

@[simp] theorem taken_waitFor (c : Clock) (m : Moment) : (c.waitFor m).taken = c.taken := by
  unfold waitFor
  split <;> rfl

theorem onward_wait (c : Clock) (ms : Nat) : c.Onward (c.wait ms) :=
  ⟨readings_wait c ms, Nat.le_of_eq (taken_wait c ms).symm⟩

theorem onward_tick (c : Clock) : c.Onward c.tick := ⟨rfl, Nat.le_succ _⟩

def Forward (c : Clock) : Prop := ∀ m n, m ≤ n → c.readings m ≤ c.readings n

theorem Forward.onward (forward : c.Forward) (onward : c.Onward d) : d.Forward := by
  unfold Forward
  rw [onward.readings]
  exact forward

theorem Forward.reading_le (forward : c.Forward) (onward : c.Onward d) : c.reading ≤ d.reading := by
  rw [reading, reading, onward.readings]
  exact forward _ _ onward.taken

end Clock

/-- With what success a step is to be closed: the first entry that names it counts. -/
def Recorder.closing? (closes : List (Option StepId × Bool)) (x : StepId) : Option Bool :=
  (closes.find? fun c => c.1 == some x).map Prod.snd

/--
What becomes of a step, from one state of the clock to another, when steps are to be closed. One
that is named is closed, unless it was closed before; the others stay as they are.
-/
def Step.Heeds (closes : List (Option StepId × Bool)) (c d : Clock) (s s' : Step) : Prop :=
  match Recorder.closing? closes s.stepId with
  | none => s' = s
  | some success => ∃ n, c.taken ≤ n ∧ n ≤ d.taken ∧ s' = s.close (c.readings n) success

namespace Recorder

theorem closing?_cons_some (id : StepId) (success : Bool) (rest : List (Option StepId × Bool))
    (x : StepId) :
    closing? ((some id, success) :: rest) x = if id = x then some success else closing? rest x := by
  by_cases same : id = x
  · simp [closing?, same]
  · simp [closing?, same, beq_eq_false_iff_ne.2 same]

/-- Entries without an identifier name no step. -/
theorem closing?_of_all_none {closes : List (Option StepId × Bool)}
    (nobody : closes.all (fun c => c.1.isNone) = true) (x : StepId) : closing? closes x = none := by
  rw [closing?, Option.map_eq_none_iff, List.find?_eq_none]
  intro c member
  have unnamed := List.all_eq_true.1 nobody c member
  obtain ⟨_ | id, success⟩ := c
  · simp
  · cases unnamed

end Recorder

namespace Step

variable {closes : List (Option StepId × Bool)} {c d : Clock} {s s' : Step}

theorem heeds_of_unnamed (unnamed : Recorder.closing? closes s.stepId = none) :
    s.Heeds closes c d s := by
  simp [Heeds, unnamed]

theorem Heeds.widen (heeds : s.Heeds closes c d s') {c' d' : Clock} (before : c'.Onward c)
    (after : d.Onward d') : s.Heeds closes c' d' s' := by
  unfold Heeds at *
  split at heeds
  · exact heeds
  · obtain ⟨n, le, most, closed⟩ := heeds
    refine ⟨n, Nat.le_trans before.taken le, Nat.le_trans most after.taken, ?_⟩
    rw [closed, before.readings]

theorem Heeds.closed_or_eq (heeds : s.Heeds closes c d s') :
    s' = s ∨ ∃ n success, Recorder.closing? closes s.stepId = some success ∧ c.taken ≤ n ∧
      n ≤ d.taken ∧ s' = s.close (c.readings n) success := by
  unfold Heeds at heeds
  split at heeds
  · exact Or.inl heeds
  · rename_i success named
    obtain ⟨n, le, most, closed⟩ := heeds
    exact Or.inr ⟨n, success, named, le, most, closed⟩

theorem Heeds.stepId (heeds : s.Heeds closes c d s') : s'.stepId = s.stepId := by
  rcases heeds.closed_or_eq with rfl | ⟨n, success, -, -, -, rfl⟩
  · rfl
  · exact stepId_close s _ success

@[simp] theorem participant_close (s : Step) (now : Timestamp) (success : Bool) :
    (s.close now success).participant = s.participant := by
  unfold close
  split <;> rfl

@[simp] theorem startTime_close (s : Step) (now : Timestamp) (success : Bool) :
    (s.close now success).startTime = s.startTime := by
  unfold close
  split <;> rfl

end Step

namespace RequestTrace

variable {steps : List Step}

theorem closeStep_of_absent {id : StepId} (absent : id ∉ steps.map Step.stepId) (now : Timestamp)
    (success : Bool) : closeStep steps id now success = steps := by
  induction steps with
  | nil => rfl
  | cons s rest ih =>
    rw [List.map_cons, List.mem_cons, not_or] at absent
    rw [closeStep, if_neg (Ne.symm absent.1), ih absent.2]

theorem closeStep_eq_map (once : (steps.map Step.stepId).Nodup) (id : StepId) (now : Timestamp)
    (success : Bool) :
    closeStep steps id now success =
      steps.map fun s => if s.stepId = id then s.close now success else s := by
  induction steps with
  | nil => rfl
  | cons s rest ih =>
    rw [List.map_cons, List.nodup_cons] at once
    have later := ih once.2
    rw [closeStep, List.map_cons]
    split
    · rename_i same
      rw [← later, closeStep_of_absent (same ▸ once.1)]
    · rw [later]

/-- Closing a step that is not open changes nothing. -/
theorem closeStep_of_not_open {id : StepId}
    (closed : (steps.find? fun s => s.stepId == id).any Step.isOpen = false) (now : Timestamp)
    (success : Bool) : closeStep steps id now success = steps := by
  induction steps with
  | nil => rfl
  | cons s rest ih =>
    rw [closeStep]
    split
    · rename_i same
      have shut : s.isOpen = false := by
        simpa [List.find?_cons, same] using closed
      rw [Step.close_of_closed shut]
    · rename_i different
      rw [ih (by simpa [List.find?_cons, beq_eq_false_iff_ne.2 different] using closed)]

end RequestTrace

namespace Recorder

open RequestTrace

variable {steps : List Step}

theorem onward_closeAll (closes : List (Option StepId × Bool)) (steps : List Step) (clock : Clock) :
    clock.Onward (closeAll closes steps clock).2.2 := by
  obtain ⟨n, taken⟩ := clock_closeAll closes steps clock
  rw [taken]
  exact ⟨rfl, Nat.le_add_right _ _⟩

/-- Every step heeds the closes: the first that names it closes it, if it was open. -/
theorem heeds_closeAll (once : (steps.map Step.stepId).Nodup)
    (closes : List (Option StepId × Bool)) (clock : Clock) :
    List.Forall₂ (Step.Heeds closes clock (closeAll closes steps clock).2.2) steps
      (closeAll closes steps clock).1 := by
  induction closes generalizing steps clock with
  | nil => exact List.forall₂_same.2 fun s _ => Step.heeds_of_unnamed rfl
  | cons close rest ih =>
    obtain ⟨_ | id, success⟩ := close
    · exact ih once clock
    · have onceLater : ((closeStep steps id clock.reading success).map Step.stepId).Nodup := by
        rw [stepIds_closeStep]
        exact once
      rw [closeAll]
      dsimp only
      generalize wasOpen : (steps.find? fun s => s.stepId == id).any Step.isOpen = was
      generalize advanced : (if was then clock.tick else clock) = later
      have onward : clock.Onward later := by
        rw [← advanced]
        split
        · exact clock.onward_tick
        · exact Clock.Onward.refl clock
      have heeds := ih onceLater later
      have reached := onward_closeAll rest (closeStep steps id clock.reading success) later
      generalize closeAll rest (closeStep steps id clock.reading success) later = result
        at heeds reached
      rw [closeStep_eq_map once, List.forall₂_map_left_iff] at heeds
      refine heeds.imp ?_
      intro s s' heeded
      split at heeded
      · rename_i same
        have closed : s' = s.close clock.reading success := by
          rcases heeded.closed_or_eq with equal | ⟨n, again, -, -, -, equal⟩
          · exact equal
          · rw [equal, Step.close_of_closed (Step.isOpen_close s _ _)]
        rw [Step.Heeds, closing?_cons_some, if_pos same.symm]
        exact ⟨clock.taken, Nat.le_refl _, Nat.le_trans onward.taken reached.taken, closed⟩
      · rename_i different
        have named : closing? ((some id, success) :: rest) s.stepId = closing? rest s.stepId := by
          rw [closing?_cons_some, if_neg (Ne.symm different)]
        rw [Step.Heeds, named]
        exact heeded.widen onward (Clock.Onward.refl _)

/-- If no step that is named was open, nothing happens. -/
theorem closeAll_of_unchanged {closes : List (Option StepId × Bool)} {clock : Clock}
    (unchanged : (closeAll closes steps clock).2.1 = false) :
    closeAll closes steps clock = (steps, false, clock) := by
  induction closes generalizing steps clock with
  | nil => rfl
  | cons close rest ih =>
    obtain ⟨_ | id, success⟩ := close
    · exact ih unchanged
    · rw [closeAll] at unchanged ⊢
      dsimp only at unchanged ⊢
      obtain ⟨shut, unchangedLater⟩ := Bool.or_eq_false_iff.1 unchanged
      rw [ih unchangedLater, closeStep_of_not_open shut, shut]
      rfl

end Recorder

end RollCall
