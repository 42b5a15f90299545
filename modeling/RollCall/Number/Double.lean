import RollCall.Number.Width

set_option autoImplicit false

/-!
Finite double-precision numbers, exactly. A number is `± significand · 2 ^ exponent`; every
operation computes the exact ratio of two natural numbers and rounds it once, to the nearest
double, a tie going to the even significand.
-/
namespace RollCall

/-- `± significand · 2 ^ exponent`; the significand has 53 bits unless the exponent is the least. -/
structure Double where
  negative : Bool
  significand : Nat
  exponent : Int
deriving DecidableEq, Repr

namespace Double

/-- The least significand of 53 bits. -/
def leastSignificand : Nat := 4503599627370496

/-- The exponent of the smallest positive number. -/
def leastExponent : Int := -1074

/-- The exponent above which a number is too large. -/
def greatestExponent : Int := 971

/-- The nearest whole number to a ratio, a tie going to the even one. -/
def roundDiv (num den : Nat) : Nat :=
  let q := num / den
  let r := num % den
  if 2 * r < den ∨ (2 * r = den ∧ q % 2 = 0) then q else q + 1

/-- The ratio `num / den / 2 ^ e`. -/
def overPower (num den : Nat) (e : Int) : Nat × Nat :=
  if 0 ≤ e then (num, den * twoTo e.toNat) else (num * twoTo (-e).toNat, den)

/-- The exponent at which a positive ratio has a whole part of 53 bits, or the least exponent. -/
def gridExponent (num den : Nat) : Int :=
  let guess : Int := (num.log2 : Int) - (den.log2 : Int) - 52
  let r := overPower num den guess
  max (if r.1 / r.2 < leastSignificand then guess - 1 else guess) leastExponent

/-- The nearest double to `± num / den`; none when that is too large. -/
def ofRatio? (negative : Bool) (num den : Nat) : Option Double :=
  if num = 0 then some ⟨negative, 0, leastExponent⟩
  else
    let e := gridExponent num den
    let r := overPower num den e
    let m := roundDiv r.1 r.2
    let (m, e) := if m = 2 * leastSignificand then (leastSignificand, e + 1) else (m, e)
    if e ≤ greatestExponent then some ⟨negative, m, e⟩ else none

/-- The ratio that the number is, sign aside. -/
def ratio (x : Double) : Nat × Nat :=
  if 0 ≤ x.exponent then (x.significand * twoTo x.exponent.toNat, 1)
  else (x.significand, twoTo (-x.exponent).toNat)

def isZero (x : Double) : Bool := x.significand == 0

def zero (negative : Bool) : Double := ⟨negative, 0, leastExponent⟩

def mul? (x y : Double) : Option Double :=
  let a := x.ratio
  let b := y.ratio
  ofRatio? (x.negative != y.negative) (a.1 * b.1) (a.2 * b.2)

/-- The quotient by a number that is not zero. -/
def div? (x y : Double) : Option Double :=
  let a := x.ratio
  let b := y.ratio
  ofRatio? (x.negative != y.negative) (a.1 * b.2) (a.2 * b.1)

def decimalLength (n : Nat) : Nat := (Nat.toDigits 10 n).length

/-- The nearest double to `± digits · 10 ^ exponent`; none when that is too large. -/
def ofDecimal? (negative : Bool) (digits : Nat) (exponent : Int) : Option Double :=
  if digits = 0 then some (zero negative)
  else if exponent > 400 then none
  else if exponent + decimalLength digits < -400 then some (zero negative)
  else if 0 ≤ exponent then ofRatio? negative (digits * tenTo exponent.toNat) 1
  else ofRatio? negative digits (tenTo (-exponent).toNat)

def powerOfTen? (k : Nat) : Option Double :=
  ofRatio? false (tenTo k) 1

/--
Scales by a power of ten, rounding after every factor: factors of `10 ^ 308` as long as more is
to be taken off than that, then one last factor. `steps` bounds the number of factors.
-/
def scaleByTen? (steps : Nat) (x : Double) (exponent : Int) : Option Double :=
  if exponent.natAbs ≤ 308 then
    if 0 ≤ exponent then (powerOfTen? exponent.natAbs).bind x.mul?
    else (powerOfTen? exponent.natAbs).bind x.div?
  else if x.isZero then some x
  else if 0 ≤ exponent then none
  else
    match steps with
    | 0 => some (zero x.negative)
    | steps + 1 =>
      ((powerOfTen? 308).bind x.div?).bind fun y => scaleByTen? steps y (exponent + 308)

/--
The double that `± digits · 10 ^ exponent` reads as when the digits are rounded first and scaled
afterwards. Three factors of `10 ^ 308` bring every significand of 64 bits to zero.
-/
def ofScaled? (negative : Bool) (digits : Nat) (exponent : Int) : Option Double :=
  (ofRatio? negative digits 1).bind fun x => scaleByTen? 3 x exponent

end Double

end RollCall
