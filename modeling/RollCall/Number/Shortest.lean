import RollCall.Number.Double

set_option autoImplicit false

/-!
The decimal text of a double: the fewest digits that read back as the number, the nearest such
digits to it, and two styles of writing them.
-/
namespace RollCall.Double

/-- The least `k` with `num / den < 10 ^ k`, for a positive ratio. -/
def magnitude (num den : Nat) : Int :=
  if den ≤ num then decimalLength (num / den)
  else 1 - (decimalLength ((den - 1) / num) : Int)

/-- The ratios that bound the decimals which read as the number, in the order low, high. -/
def bounds (x : Double) : (Nat × Nat) × (Nat × Nat) :=
  let m := 4 * x.significand
  let below :=
    if x.significand = leastSignificand ∧ leastExponent < x.exponent then m - 1 else m - 2
  let scale (k : Nat) : Nat × Nat :=
    let e := x.exponent - 2
    if 0 ≤ e then (k * twoTo e.toNat, 1) else (k, twoTo (-e).toNat)
  (scale below, scale (m + 2))

def decimalRatio (digits : Nat) (g : Int) : Nat × Nat :=
  if 0 ≤ g then (digits * tenTo g.toNat, 1) else (digits, tenTo (-g).toNat)

/-- Whether a decimal reads as the number: the ends count when the significand is even. -/
def readsAs (x : Double) (digits : Nat) (g : Int) : Bool :=
  let b := x.bounds
  let d := decimalRatio digits g
  let low := b.1.1 * d.2
  let high := b.2.1 * d.2
  let fromLow := d.1 * b.1.2
  let toHigh := d.1 * b.2.2
  if x.significand % 2 = 0 then low ≤ fromLow && toHigh ≤ high
  else low < fromLow && toHigh < high

/-- The nearest point of the grid `10 ^ g` that reads as the number, if one does. -/
def gridHit? (x : Double) (g : Int) : Option Nat :=
  let r := x.ratio
  let s := if 0 ≤ g then (r.1, r.2 * tenTo g.toNat) else (r.1 * tenTo (-g).toNat, r.2)
  let q := s.1 / s.2
  let near := roundDiv s.1 s.2
  let far := if near = q then q + 1 else q
  if x.readsAs near g then some near
  else if x.readsAs far g then some far
  else none

/-- Tries grids of more and more digits; `left` counts the finer ones still to try. -/
def firstHit (x : Double) (left : Nat) (g : Int) : Nat × Int :=
  match x.gridHit? g, left with
  | some d, _ => (d, g)
  | none, 0 =>
    let r := x.ratio
    let s := if 0 ≤ g then (r.1, r.2 * tenTo g.toNat) else (r.1 * tenTo (-g).toNat, r.2)
    (roundDiv s.1 s.2, g)
  | none, left + 1 => x.firstHit left (g - 1)

/-- The digits, without zeros at the end, and the power of ten of the first one. -/
def shortest (x : Double) : List Char × Int :=
  if x.isZero then (['0'], 0)
  else
    let r := x.ratio
    let k := magnitude r.1 r.2
    let (d, g) := x.firstHit 16 (k - 1)
    let all := Nat.toDigits 10 d
    ((all.reverse.dropWhile (· == '0')).reverse, g + all.length - 1)

/-- How a number is written. -/
structure Style where
  /-- The powers of ten of the first digit between which no exponent is written. -/
  positional : Int → Bool
  /-- Whether a whole number keeps a zero after the point. -/
  keepsPoint : Bool

/-- Digits written out around the point, `e` being the power of ten of the first one. -/
def positionalText (style : Style) (ds : List Char) (e : Int) : List Char :=
  if e < 0 then '0' :: '.' :: (List.replicate ((-e).toNat - 1) '0' ++ ds)
  else
    let whole := e.toNat + 1
    if ds.length ≤ whole then
      ds ++ List.replicate (whole - ds.length) '0' ++ (if style.keepsPoint then ['.', '0'] else [])
    else ds.take whole ++ '.' :: ds.drop whole

/-- One digit, the others after a point, and the exponent with its sign. -/
def exponentText (ds : List Char) (e : Int) : List Char :=
  let tail := ds.drop 1
  ds.take 1 ++ (if tail.isEmpty then [] else '.' :: tail) ++
    'e' :: (if e < 0 then '-' else '+') :: Nat.toDigits 10 e.natAbs

def text (style : Style) (x : Double) : List Char :=
  let (ds, e) := x.shortest
  (if x.negative then ['-'] else []) ++
    (if style.positional e then positionalText style ds e else exponentText ds e)

end RollCall.Double
