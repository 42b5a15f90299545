import RollCall.Settings.Basic

set_option autoImplicit false

/-!
Lengths of time put into settings. Retention is kept in whole seconds, at least one. The unicast
timeout is kept as the low 64 bits of its whole milliseconds, which are zero for a length below one
millisecond and say little of one that has more of them.
-/
namespace RollCall

namespace Span

/-- What is left over the whole seconds is less than another one. -/
theorem secs_eq_div (t : Span) : t.secs.toNat = t.totalNanos / 1000000000 := by
  have part := t.nanos.isLt
  unfold totalNanos
  omega

theorem totalNanos_ofMillis (ms : UInt64) : (ofMillis ms).totalNanos = 1000000 * ms.toNat := by
  have thousand : (1000 : UInt64).toNat = 1000 := rfl
  simp only [totalNanos, ofMillis, UInt64.toNat_div, thousand]
  omega

end Span

namespace Settings

theorem validate_eq_ok_iff {s : Settings} : s.validate = .ok () ↔ s.fault? = none := by
  unfold validate
  cases s.fault? <;> simp

/-- Settings that differ from others in a retention of this length, in whole seconds, at least
one. -/
structure TakesTtl (s : Settings) (t : Span) (s' : Settings) : Prop where
  acceptable : s'.validate = .ok ()
  rounded : s'.traceTtl.totalNanos = 1000000000 * max 1 (t.totalNanos / 1000000000)
  others : s' = { s with traceTtlSecs := s'.traceTtlSecs }

/--
Settings that differ from others in a unicast timeout of this length, in whole milliseconds and less
than one millisecond away from it.
-/
structure TakesTimeout (s : Settings) (t : Span) (s' : Settings) : Prop where
  acceptable : s'.validate = .ok ()
  whole : s'.dispatchTimeout.totalNanos % 1000000 = 0
  notShort : t.totalNanos < s'.dispatchTimeout.totalNanos + 1000000
  notLong : s'.dispatchTimeout.totalNanos < t.totalNanos + 1000000
  others : s' = { s with dispatchTimeoutMs := s'.dispatchTimeoutMs }

variable {s : Settings} (acceptable : s.validate = .ok ()) (t : Span)

section Retention
include acceptable

/-- A retention is never set to zero. -/
theorem validate_withTraceTtl : (s.withTraceTtl t).validate = .ok () := by
  rw [validate_eq_ok_iff, fault?_eq_none_iff] at acceptable ⊢
  obtain ⟨named, positive⟩ := acceptable
  have kept : (if t.secs = 0 then 1 else t.secs) ≠ 0 := by
    split
    · decide
    · assumption
  simp only [lengths, List.forall_mem_cons] at positive ⊢
  exact ⟨named, positive.1, positive.2.1, positive.2.2.1, kept, positive.2.2.2.2⟩

theorem takesTtl_withTraceTtl : s.TakesTtl t (s.withTraceTtl t) := by
  refine ⟨validate_withTraceTtl acceptable t, ?_, rfl⟩
  have secs := t.secs_eq_div
  show 1000000000 * (if t.secs = 0 then 1 else t.secs).toNat = _
  split
  · rename_i none
    rw [none, UInt64.toNat_zero] at secs
    rw [← secs]
    rfl
  · rename_i some
    have positive : t.secs.toNat ≠ 0 := fun zero => some (UInt64.toNat_inj.1 zero)
    omega

end Retention

theorem toNat_withDispatchTimeout (s : Settings) :
    (s.withDispatchTimeout t).dispatchTimeoutMs.toNat = t.millis % Width.words64 :=
  UInt64.toNat_ofNat'

theorem totalNanos_withDispatchTimeout (s : Settings) :
    (s.withDispatchTimeout t).dispatchTimeout.totalNanos = 1000000 * (t.millis % Width.words64) := by
  rw [dispatchTimeout, Span.totalNanos_ofMillis, toNat_withDispatchTimeout]

/-- The low bits of a length are all of it exactly if there are no others. -/
theorem lowBits_eq_iff (n : Nat) : n % Width.words64 = n ↔ n < Width.words64 := by
  unfold Width.words64
  omega

section Timeout
include acceptable

/-- No other length of acceptable settings is zero. -/
theorem fault?_withDispatchTimeout :
    (s.withDispatchTimeout t).fault? =
      if t.millis % Width.words64 = 0 then some (.zero "dispatch_timeout_ms") else none := by
  rw [validate_eq_ok_iff, fault?_eq_none_iff] at acceptable
  obtain ⟨named, positive⟩ := acceptable
  simp only [lengths, List.forall_mem_cons] at positive
  obtain ⟨broadcast, -, relay, ttl, store, -⟩ := positive
  have zero_iff : UInt64.ofNat t.millis = 0 ↔ t.millis % Width.words64 = 0 := by
    rw [← UInt64.toNat_inj, UInt64.toNat_zero, ← toNat_withDispatchTimeout t s]
    rfl
  by_cases zero : t.millis % Width.words64 = 0
  · rw [if_pos zero]
    simp [fault?, lengths, withDispatchTimeout, named, broadcast, zero_iff.2 zero]
  · rw [if_neg zero]
    have kept := mt zero_iff.1 zero
    simp [fault?, lengths, withDispatchTimeout, named, broadcast, kept, relay, ttl, store]

theorem takesTimeout_iff :
    s.TakesTimeout t (s.withDispatchTimeout t) ↔
      1000000 ≤ t.totalNanos ∧ t.millis < Width.words64 := by
  have fault := fault?_withDispatchTimeout acceptable t
  have nanos := totalNanos_withDispatchTimeout t s
  have millis : t.millis = t.totalNanos / 1000000 := rfl
  rw [← lowBits_eq_iff t.millis]
  constructor
  · intro takes
    have kept : t.millis % Width.words64 ≠ 0 := by
      intro zero
      rw [if_pos zero, validate_eq_ok_iff.1 takes.acceptable] at fault
      cases fault
    have notShort := takes.notShort
    rw [nanos] at notShort
    have most := Nat.mod_le t.millis Width.words64
    omega
  · rintro ⟨some, all⟩
    rw [all] at fault nanos
    have kept : t.millis ≠ 0 := by omega
    rw [if_neg kept] at fault
    refine ⟨validate_eq_ok_iff.2 fault, ?_, ?_, ?_, rfl⟩
    · omega
    · omega
    · omega

/--
A retention that is put into acceptable settings is kept in whole seconds, at least one. A unicast
timeout is kept in whole milliseconds, less than one away from it, exactly if it has one of them and
no more than 64 bits can count. In any case the low 64 bits of its whole milliseconds are kept, and
the settings are refused because of it exactly if these are all zero.
-/
theorem lengths_taken_iff :
    s.TakesTtl t (s.withTraceTtl t) ∧
    (s.TakesTimeout t (s.withDispatchTimeout t) ↔
      1000000 ≤ t.totalNanos ∧ t.millis < Width.words64) ∧
    (s.withDispatchTimeout t).dispatchTimeout.totalNanos = 1000000 * (t.millis % Width.words64) ∧
    (s.withDispatchTimeout t).fault? =
      if t.millis % Width.words64 = 0 then some (.zero "dispatch_timeout_ms") else none :=
  ⟨takesTtl_withTraceTtl acceptable t, takesTimeout_iff acceptable t,
    totalNanos_withDispatchTimeout t s, fault?_withDispatchTimeout acceptable t⟩

end Timeout

/-- Half a millisecond, and one millisecond more than 64 bits can count. -/
theorem lengths_not_taken :
    standard.validate = .ok () ∧ (Span.mk 0 500000).isZero = false ∧
    (standard.withDispatchTimeout ⟨0, 500000⟩).validate = .error (.zero "dispatch_timeout_ms") ∧
    (standard.withDispatchTimeout ⟨18446744073709551, 617000000⟩).dispatchTimeout =
      ⟨0, 1000000⟩ :=
  ⟨rfl, rfl, rfl, by decide⟩

/-- Half a millisecond is long enough to keep traces for a second, but is no timeout. -/
theorem lengths_taken_iff_rehearsal :
    standard.TakesTtl ⟨0, 500000⟩ (standard.withTraceTtl ⟨0, 500000⟩) ∧
    ¬ standard.TakesTimeout ⟨0, 500000⟩ (standard.withDispatchTimeout ⟨0, 500000⟩) ∧
    standard.TakesTimeout ⟨2, 700000⟩ (standard.withDispatchTimeout ⟨2, 700000⟩) := by
  have taken := lengths_taken_iff (s := standard) rfl
  obtain ⟨ttl, short, -⟩ := taken ⟨0, 500000⟩
  obtain ⟨-, long, -⟩ := taken ⟨2, 700000⟩
  exact ⟨ttl, mt short.1 (by decide), long.2 (by decide)⟩

end Settings

end RollCall
