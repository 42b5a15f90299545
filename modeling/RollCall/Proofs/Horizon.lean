import RollCall.Proofs.Expiry
import RollCall.Settings.Basic

set_option autoImplicit false

/-!
How far ahead a record can expire. A store refuses a time that it cannot count, but takes any other
and looks for the instant at which it is over, which the clock of the store need not have.
-/
namespace RollCall

theorem Span.totalNanos_ofSecs (secs : UInt64) :
    (ofSecs secs).totalNanos = 1000000000 * secs.toNat :=
  rfl

/-- A leap second is over after any whole second. -/
theorem Timestamp.seconds_add_ofSecs {t : Timestamp} (known : t.inCalendar = true) {secs : UInt64}
    (positive : secs ≠ 0) : (t.add (Span.ofSecs secs)).seconds = t.seconds + secs.toNat := by
  have fits : t.nanos < 2000000000 := by
    simp only [inCalendar, Bool.and_eq_true, Bool.or_eq_true, decide_eq_true_eq] at known
    omega
  have some : 0 < secs.toNat := Nat.pos_of_ne_zero fun zero => positive (UInt64.toNat_inj.1 zero)
  unfold add
  rw [Span.totalNanos_ofSecs]
  split
  · rw [if_neg (by omega)]
    dsimp only
    omega
  · dsimp only
    omega

/--
A save that comes back: the trace is stored, or the store says that it cannot keep it for so long. A
save that looks for an instant past the end of the clock breaks off without an answer.
-/
inductive TraceStore.Answered : Except StoreFailure Unit → Prop
  | stored : Answered (.ok ())
  | refused : Answered (.error (.notRetained .outOfRange))

/-- As many seconds as the store of texts can count in milliseconds. -/
def DurableStore.longestSeconds : Nat := 9223372036854775

/-- The clock that a store takes expiries from does not have the instant so many seconds on. -/
def Backend.Overruns (now : Timestamp) (secs : Nat) : Backend → Prop
  | .memory _ => MemoryStore.lastSecond < now.seconds + secs
  | .durable _ => secs ≤ DurableStore.longestSeconds ∧ Timestamp.endOfCalendar ≤ now.seconds + secs

section Saves

variable {now : Timestamp} (known : now.inCalendar = true) {secs : UInt64} (positive : secs ≠ 0)
  (trace : RequestTrace)
include known positive

theorem MemoryStore.save_ofSecs_eq_error_iff (s : MemoryStore) (fault : RetentionFault) :
    s.save trace (Span.ofSecs secs) now = .error fault ↔
      lastSecond < now.seconds + secs.toNat ∧ fault = .pastEndOfClock := by
  rw [s.save_eq, accepts, Timestamp.seconds_add_ofSecs known positive]
  split
  · rename_i early
    have early := of_decide_eq_true early
    simp only [reduceCtorEq, false_iff, not_and]
    omega
  · rename_i late
    rw [decide_eq_true_eq, Int.not_le] at late
    simp only [Except.error.injEq, late, true_and, eq_comm]

theorem DurableStore.save_ofSecs_eq_error_iff {codec : RecordCodec} (s : DurableStore codec)
    (fault : RetentionFault) :
    s.save trace (Span.ofSecs secs) now = .error fault ↔
      longestSeconds < secs.toNat ∧ fault = .outOfRange ∨
        (secs.toNat ≤ longestSeconds ∧ Timestamp.endOfCalendar ≤ now.seconds + secs.toNat) ∧
          fault = .pastEndOfClock := by
  have countable :
      longestRetention < (Span.ofSecs secs).totalNanos ↔ longestSeconds < secs.toNat := by
    rw [Span.totalNanos_ofSecs, longestRetention, longestSeconds]
    omega
  have instant := Timestamp.seconds_add_ofSecs known positive
  unfold save
  by_cases long : longestSeconds < secs.toNat
  · rw [if_pos (countable.2 long)]
    simp only [Except.error.injEq, long, Nat.not_le.2 long, true_and, false_and, or_false, eq_comm]
  · rw [if_neg fun tooLong => long (countable.1 tooLong), Timestamp.add?, instant]
    by_cases early : now.seconds + secs.toNat < Timestamp.endOfCalendar
    · simp only [if_pos early, reduceCtorEq, long, Int.not_le.2 early, and_false, false_and,
        or_self]
    · simp only [if_neg early, Except.error.injEq, long, Nat.not_lt.1 long, Int.not_lt.1 early,
        true_and, false_and, false_or, eq_comm]

end Saves

namespace TraceStore

theorem not_answered_pastEndOfClock : ¬ Answered (.error (.notRetained .pastEndOfClock)) := by
  intro answered
  cases answered

theorem save_of_error {s : TraceStore} {trace : RequestTrace} {ttl : Span} {now : Timestamp}
    {failure : StoreFailure} (failed : (s.save trace ttl now).1 = .error failure) :
    (s.save trace ttl now).2 = s := by
  obtain ⟨backend, script⟩ := s
  cases backend with
  | memory m =>
    unfold save at failed ⊢
    dsimp only at failed ⊢
    split at failed
    · cases failed
    · rfl
  | durable d =>
    unfold save at failed ⊢
    dsimp only at failed ⊢
    split at failed
    · cases failed
    · rfl

/--
With acceptable settings, at any reading of the clock, whatever is in the store: a save comes back,
with the trace stored or refused, exactly if the clock has the instant at which the retention of the
settings is over, or that retention is more than the store can count. A save that does not store the
trace leaves the store as it was.
-/
theorem save_answered_iff {settings : Settings} (acceptable : settings.fault? = none)
    {now : Timestamp} (known : now.inCalendar = true) (s : TraceStore) (trace : RequestTrace) :
    (Answered (s.save trace settings.traceTtl now).1 ↔
      ¬ s.backend.Overruns now settings.traceTtlSecs.toNat) ∧
    ∀ failure, (s.save trace settings.traceTtl now).1 = .error failure →
      (s.save trace settings.traceTtl now).2 = s := by
  refine ⟨?_, fun failure => save_of_error⟩
  obtain ⟨-, lengths⟩ := Settings.fault?_eq_none_iff.1 acceptable
  have positive : settings.traceTtlSecs ≠ 0 :=
    lengths ("trace_ttl_secs", _) (by simp [Settings.lengths])
  obtain ⟨backend, script⟩ := s
  cases backend with
  | memory m =>
    have fails := MemoryStore.save_ofSecs_eq_error_iff known positive trace m
    simp only [save, Settings.traceTtl, Backend.Overruns]
    cases saved : m.save trace (Span.ofSecs settings.traceTtlSecs) now with
    | ok m' =>
      have early := (fails .pastEndOfClock).not.1 (by simp [saved])
      exact iff_of_true .stored fun late => early ⟨late, rfl⟩
    | error fault =>
      obtain ⟨late, rfl⟩ := (fails fault).1 saved
      exact iff_of_false not_answered_pastEndOfClock (not_not_intro late)
  | durable d =>
    have fails := DurableStore.save_ofSecs_eq_error_iff known positive trace d
    simp only [save, Settings.traceTtl, Backend.Overruns]
    cases saved : d.save trace (Span.ofSecs settings.traceTtlSecs) now with
    | ok d' =>
      have early := (fails .pastEndOfClock).not.1 (by simp [saved])
      exact iff_of_true .stored fun late => early (.inr ⟨late, rfl⟩)
    | error fault =>
      rcases (fails fault).1 saved with ⟨long, rfl⟩ | ⟨late, rfl⟩
      · exact iff_of_true .refused fun late => Nat.not_le.2 long late.1
      · exact iff_of_false not_answered_pastEndOfClock (not_not_intro late)

def presentDay : Timestamp := ⟨1714521600, 0⟩

def retaining (secs : UInt64) : Settings := { traceTtlSecs := secs }

/-- Some 285 000 years, and the longest retention that settings can state. -/
theorem save_breaks_off :
    (retaining 9000000000000).fault? = none ∧
    ((durable presentDay).save (RequestTrace.empty ⟨"r"⟩)
      (retaining 9000000000000).traceTtl presentDay).1 = .error (.notRetained .pastEndOfClock) ∧
    (retaining 18446744073709551615).fault? = none ∧
    ((memory presentDay).save (RequestTrace.empty ⟨"r"⟩)
      (retaining 18446744073709551615).traceTtl presentDay).1 =
        .error (.notRetained .pastEndOfClock) := by
  decide

theorem save_answered_iff_rehearsal :
    ¬ Answered ((durable presentDay).save (RequestTrace.empty ⟨"r"⟩)
      (retaining 9000000000000).traceTtl presentDay).1 ∧
    Answered ((durable presentDay).save (RequestTrace.empty ⟨"r"⟩)
      (retaining 18446744073709551615).traceTtl presentDay).1 ∧
    Answered ((memory presentDay).save (RequestTrace.empty ⟨"r"⟩)
      (retaining 9000000000000).traceTtl presentDay).1 := by
  have known : presentDay.inCalendar = true := by decide
  have answered (secs : UInt64) (acceptable : (retaining secs).fault? = none) (s : TraceStore) :=
    (save_answered_iff acceptable known s (RequestTrace.empty ⟨"r"⟩)).1
  refine ⟨?_, ?_, ?_⟩
  · rw [answered 9000000000000 (by decide)]
    exact not_not_intro (show _ ∧ _ by decide)
  · rw [answered 18446744073709551615 (by decide)]
    exact (show ¬ (_ ∧ _) by decide)
  · rw [answered 9000000000000 (by decide)]
    exact (show ¬ _ < _ by decide)

end TraceStore

end RollCall
