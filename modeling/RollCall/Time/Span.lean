import RollCall.Number.Width

set_option autoImplicit false

/-!
Lengths of time: whole seconds of 64 bits and the nanoseconds after them, with a text in the
largest fitting unit.
-/
namespace RollCall

structure Span where
  secs : UInt64
  nanos : Fin 1000000000
deriving DecidableEq, Repr

namespace Span

def zero : Span := ⟨0, 0⟩

/-- All of it in nanoseconds. -/
-- The variable factor comes second, which keeps reduction out of a recursion over the other one.
def totalNanos (d : Span) : Nat := 1000000000 * d.secs.toNat + d.nanos

/-- All of it in whole milliseconds. -/
def millis (d : Span) : Nat := d.totalNanos / 1000000

def isZero (d : Span) : Bool := d.totalNanos == 0

def ofNanos? (n : Nat) : Option Span :=
  if n / 1000000000 < Width.words64 then
    some ⟨UInt64.ofNat (n / 1000000000), ⟨n % 1000000000, Nat.mod_lt _ (by decide)⟩⟩
  else none

def ofMillis (ms : UInt64) : Span :=
  ⟨ms / 1000, ⟨ms.toNat % 1000 * 1000000, by omega⟩⟩

def ofSecs (s : UInt64) : Span := ⟨s, 0⟩

@[simp] theorem millis_ofMillis (ms : UInt64) : (ofMillis ms).millis = ms.toNat := by
  have h : (1000 : UInt64).toNat = 1000 := rfl
  simp only [millis, totalNanos, ofMillis, UInt64.toNat_div, h]
  omega

/-- The decimals of `part / 10 ^ places`, without zeros at the end. -/
def decimals (part places : Nat) : List Char :=
  let ds := Nat.toDigits 10 part
  let padded := List.replicate (places - ds.length) '0' ++ ds
  if part = 0 then [] else '.' :: (padded.reverse.dropWhile (· == '0')).reverse

/-- Seconds, milliseconds, microseconds or nanoseconds: the largest unit with a whole part. -/
def text (d : Span) : String :=
  let n := d.totalNanos
  let write (unit places : Nat) (name : String) : String :=
    String.ofList (Nat.toDigits 10 (n / unit) ++ decimals (n % unit) places) ++ name
  if 1000000000 ≤ n then write 1000000000 9 "s"
  else if 1000000 ≤ n then write 1000000 6 "ms"
  else if 1000 ≤ n then write 1000 3 "µs"
  else write 1 0 "ns"

end Span

end RollCall
