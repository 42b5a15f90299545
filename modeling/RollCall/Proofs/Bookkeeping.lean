import RollCall.Proofs.Recording

set_option autoImplicit false

/-!
How long recording takes. An operation of the store ends within the store's timeout, whatever the
store does, and a use of the recorder makes two of them at most.
-/
namespace RollCall

theorem TraceStore.admission_le (limit : Nat) (d : Disturbance) : (admission limit d).2 ≤ limit := by
  cases d with
  | proceed => exact Nat.zero_le limit
  | refuse => exact Nat.zero_le limit
  | stall ms =>
    dsimp only [admission]
    split
    · assumption
    · exact Nat.le_refl limit
  | refuseAfter ms =>
    dsimp only [admission]
    split
    · assumption
    · exact Nat.le_refl limit

namespace Recorder

/-- The time on the clock has not gone back from one journal to another, nor on by more than
this. -/
structure Within (ms : Nat) (j j' : Journal) : Prop where
  le : j.clock.now ≤ j'.clock.now
  most : j'.clock.now ≤ j.clock.now + ms

variable {r : Recorder} {j k l : Journal} {m n : Nat}

theorem Within.refl (n : Nat) (j : Journal) : Within n j j := ⟨Nat.le_refl _, Nat.le_add_right _ _⟩

theorem Within.trans (first : Within m j k) (second : Within n k l) : Within (m + n) j l := by
  obtain ⟨le, most⟩ := first
  obtain ⟨leLater, mostLater⟩ := second
  exact ⟨by omega, by omega⟩

theorem Idles.within (idles : Idles j k) : Within 0 j k := by
  have now : k.clock.now = j.clock.now := congrArg Moment.ms idles.moment
  exact ⟨Nat.le_of_eq now.symm, Nat.le_of_eq now⟩

theorem enter_within (r : Recorder) (j : Journal) : Within r.storeTimeout.millis j (r.enter j).2 := by
  have spent : (j.store.nextAdmission r.storeTimeout.millis).2.1 ≤ r.storeTimeout.millis := by
    unfold TraceStore.nextAdmission
    split
    · exact TraceStore.admission_le _ _
    · exact Nat.zero_le _
  have now : (r.enter j).2.clock.now =
      j.clock.now + (j.store.nextAdmission r.storeTimeout.millis).2.1 := Clock.now_wait _ _
  exact ⟨by omega, by omega⟩

theorem Touches.within (touches : Touches r j k) : Within r.storeTimeout.millis j k := by
  have entered := enter_within r j
  cases touches with
  | entered => exact entered
  | carriedOut store broken script => exact ⟨entered.le, entered.most⟩

theorem draft_within (r : Recorder) (id : RequestId) (a : Recording) (j : Journal) :
    Within r.storeTimeout.millis j (r.draft id a j).2 := by
  obtain ⟨k, l, before, read, after⟩ := draft_reads r id a j
  have reading : Within r.storeTimeout.millis k l := by
    rcases read with rfl | touches
    · exact Within.refl _ _
    · exact touches.within
  have whole := (before.within.trans reading).trans after.within
  rwa [Nat.zero_add, Nat.add_zero] at whole

theorem commit_within (r : Recorder) (d : Draft) (j : Journal) :
    Within r.storeTimeout.millis j (r.commit d j).2 := by
  rcases commit_writes r d j with same | touches
  · rw [same]
    exact Within.refl _ _
  · exact touches.within

theorem perform_within (r : Recorder) (id : RequestId) (a : Recording) (j : Journal) :
    Within (2 * r.storeTimeout.millis) j (r.perform id a j).2 := by
  rw [Nat.two_mul]
  exact (draft_within r id a j).trans (commit_within r _ _)

end Recorder

namespace Coordinator

variable (c : Coordinator) (id : RequestId)

theorem startSteps_within (participants : List String) (w : World) :
    Recorder.Within (2 * c.recorder.storeTimeout.millis) w.journal
      (c.startSteps id participants w).2.journal :=
  Recorder.perform_within c.recorder id (.start participants) w.journal

theorem endSteps_within (closes : List (Option StepId × Bool)) (w : World) :
    Recorder.Within (2 * c.recorder.storeTimeout.millis) w.journal
      (c.endSteps id closes w).journal :=
  Recorder.perform_within c.recorder id (.close closes) w.journal

end Coordinator

end RollCall
