import RollCall.Number.Double

set_option autoImplicit false

/-!
Numbers as they are written: whole numbers to a base, decimals with a point and an exponent, and the
words for what is not finite.
-/
namespace RollCall

/-- What a decimal text may stand for. -/
inductive Real where
  | finite (x : Double)
  | infinite (negative : Bool)
  | notANumber
deriving DecidableEq, Repr

namespace Literal

/-- The value of a digit to a base of at most 16; letters count in both cases. -/
def digitValue? (base : Nat) (c : Char) : Option Nat :=
  let v :=
    if '0' ≤ c ∧ c ≤ '9' then some (c.toNat - '0'.toNat)
    else if 'a' ≤ c ∧ c ≤ 'f' then some (c.toNat - 'a'.toNat + 10)
    else if 'A' ≤ c ∧ c ≤ 'F' then some (c.toNat - 'A'.toNat + 10)
    else none
  v.filter (· < base)

/-- The number that digits stand for, read after the number `n`. -/
def digits? (base : Nat) (n : Nat) : List Char → Option Nat
  | [] => some n
  | c :: cs =>
    match digitValue? base c with
    | some d => digits? base (n * base + d) cs
    | none => none

/-- A whole number without sign: one digit or more. -/
def natural? (base : Nat) : List Char → Option Nat
  | [] => none
  | cs => digits? base 0 cs

/-- A whole number, which may have a sign. -/
def integer? (base : Nat) : List Char → Option Int
  | '-' :: cs => (natural? base cs).map fun n => -(n : Int)
  | '+' :: cs => (natural? base cs).map fun n => (n : Int)
  | cs => (natural? base cs).map fun n => (n : Int)

/-- A whole number of 64 bits with sign. -/
def int64? (base : Nat) (cs : List Char) : Option Int :=
  (integer? base cs).filter Width.isInt64

/-- A whole number of 64 bits without sign; a plus may stand before it. -/
def word64? (base : Nat) (cs : List Char) : Option Nat :=
  let cs := match cs with
    | '+' :: r => r
    | r => r
  (natural? base cs).filter fun n => n < Width.words64

/-- The digits of a decimal, whole and after the point, and its power of ten. -/
def decimalParts? (cs : List Char) : Option (Nat × Int) :=
  let whole := cs.takeWhile Char.isDigit
  let cs := cs.dropWhile Char.isDigit
  let (fraction, cs) := match cs with
    | '.' :: r => (r.takeWhile Char.isDigit, r.dropWhile Char.isDigit)
    | r => ([], r)
  let exponent : Option Int := match cs with
    | [] => some 0
    | 'e' :: r | 'E' :: r => integer? 10 r
    | _ => none
  match exponent, natural? 10 (whole ++ fraction) with
  | some e, some n => some (n, e - fraction.length)
  | _, _ => none

/-- A decimal with an optional sign. What is too large for a double is infinite. -/
def real? (cs : List Char) : Option Real :=
  let (negative, cs) := match cs with
    | '-' :: r => (true, r)
    | '+' :: r => (false, r)
    | r => (false, r)
  let word := String.ofList (cs.map Char.toLower)
  if word = "inf" ∨ word = "infinity" then some (.infinite negative)
  else if word = "nan" then some .notANumber
  else
    (decimalParts? cs).map fun d =>
      match Double.ofDecimal? negative d.1 d.2 with
      | some x => .finite x
      | none => .infinite negative

def double? (cs : List Char) : Option Double :=
  match real? cs with
  | some (.finite x) => some x
  | _ => none

end Literal

end RollCall
