import RollCall.Time.Calendar
import RollCall.Toml.Basic

set_option autoImplicit false

/-!
TOML numbers, truth values and times. Digits may be grouped by single underscores. Times are kept as
text: a `T` between day and time, no zeros at the end of a fraction.
-/
namespace RollCall.Toml

/-- The characters of numbers, truth values, times and bare keys, all together. -/
def isWordChar (c : Char) : Bool :=
  c.isAlphanum || c == '_' || c == '-' || c == '+' || c == '.' || c == ':'

/-- Digits with single underscores between them, without the underscores. -/
def ungrouped? (isDigit : Char → Bool) : List Char → Option (List Char)
  | [] => none
  | [c] => if isDigit c then some [c] else none
  | c :: '_' :: rest =>
    if isDigit c then (ungrouped? isDigit rest).map (c :: ·) else none
  | c :: rest => if isDigit c then (ungrouped? isDigit rest).map (c :: ·) else none

/-- Decimal digits of which the first is a zero only when it is the only one. -/
def decimal? (cs : List Char) : Option (List Char) :=
  (ungrouped? Char.isDigit cs).filter fun ds => ds.length == 1 || ds.head? != some '0'

def unsign : List Char → List Char × List Char
  | '-' :: r => (['-'], r)
  | '+' :: r => (['+'], r)
  | r => ([], r)

def based? (base : Nat) (cs : List Char) : Option Int :=
  (ungrouped? (fun c => (Literal.digitValue? base c).isSome) cs).bind (Literal.int64? base)

def integer? : List Char → Option Int
  | '0' :: 'x' :: r => based? 16 r
  | '0' :: 'o' :: r => based? 8 r
  | '0' :: 'b' :: r => based? 2 r
  | cs =>
    let (sign, r) := unsign cs
    (decimal? r).bind fun ds => Literal.int64? 10 (sign ++ ds)

def fraction? : List Char → Option (List Char)
  | '.' :: r => (ungrouped? Char.isDigit r).map ('.' :: ·)
  | [] => some []
  | _ => none

def exponent? : List Char → Option (List Char)
  | [] => some []
  | _ :: r =>
    let (sign, ds) := unsign r
    (ungrouped? Char.isDigit ds).map fun ds => 'e' :: (sign ++ ds)

/-- A number with a fraction or an exponent; none that is too large. -/
def finite? (cs : List Char) : Option Real := do
  let (sign, r) := unsign cs
  let isMark (c : Char) : Bool := c == 'e' || c == 'E'
  let mantissa := r.takeWhile fun c => !isMark c
  let whole := mantissa.takeWhile (· != '.')
  let whole ← decimal? whole
  let fraction ← fraction? (mantissa.dropWhile (· != '.'))
  let exponent ← exponent? (r.dropWhile fun c => !isMark c)
  if fraction.isEmpty && exponent.isEmpty then none
  let x ← Literal.real? (sign ++ whole ++ fraction ++ exponent)
  if x = .infinite false then none else some x

def float? (cs : List Char) : Option Real :=
  let (sign, r) := unsign cs
  if r = "inf".toList then some (.infinite (sign = ['-']))
  else if r = "nan".toList then some .notANumber
  else finite? cs

/-- A number of some digits, from a least to a greatest one, with what is behind it. -/
def bounded? (digits least greatest : Nat) (cs : List Char) : Option (Nat × List Char) :=
  let ds := cs.take digits
  if ds.length = digits && ds.all Char.isDigit then
    ((Literal.natural? 10 ds).filter fun n => least ≤ n && n ≤ greatest).map
      fun n => (n, cs.drop digits)
  else none

def expect? (c : Char) : List Char → Option (List Char)
  | x :: r => if x == c then some r else none
  | [] => none

def day? (cs : List Char) : Option (List Char × List Char) := do
  let (year, r) ← bounded? 4 0 9999 cs
  let (month, r) ← bounded? 2 1 12 (← expect? '-' r)
  let (_, r) ← bounded? 2 1 (Calendar.daysInMonth year month) (← expect? '-' r)
  return (cs.take 10, r)

/-- The fraction of a second, of which nine digits are kept. -/
def secondFraction? : List Char → Option (List Char × List Char)
  | '.' :: r =>
    let ds := r.takeWhile Char.isDigit
    let kept := (((ds.take 9).reverse.dropWhile (· == '0'))).reverse
    if ds.isEmpty then none
    else some (if kept.isEmpty then [] else '.' :: kept, r.dropWhile Char.isDigit)
  | r => some ([], r)

/-- A time of day, with what is behind it. -/
def clock? (cs : List Char) : Option (List Char × List Char) := do
  let (_, r) ← bounded? 2 0 23 cs
  let (_, r) ← bounded? 2 0 59 (← expect? ':' r)
  let (_, r) ← bounded? 2 0 60 (← expect? ':' r)
  let (fraction, r) ← secondFraction? r
  return (cs.take 8 ++ fraction, r)

/-- The offset from universal time, if there is one. -/
def offset? (cs : List Char) : Option (List Char) :=
  match cs with
  | [] => some []
  | ['Z'] | ['z'] => some ['Z']
  | sign :: r => do
    let (h, r) ← bounded? 2 0 23 r
    let (m, r) ← bounded? 2 0 59 (← expect? ':' r)
    if !r.isEmpty || !(sign == '+' || sign == '-') then none
    else some (if h = 0 && m = 0 then "+00:00".toList else cs)

/-- A day, a time, or both with an offset. -/
def datetime? (cs : List Char) : Option String :=
  match day? cs with
  | some (day, []) => some (String.ofList day)
  | some (day, mark :: r) =>
    if mark == 'T' || mark == 't' || mark == ' ' then do
      let (clock, r) ← clock? r
      let offset ← offset? r
      return String.ofList (day ++ 'T' :: clock ++ offset)
    else none
  | none =>
    match clock? cs with
    | some (clock, []) => some (String.ofList clock)
    | _ => none

def word? (cs : List Char) : Option Value :=
  if cs = "true".toList then some (.boolean true)
  else if cs = "false".toList then some (.boolean false)
  else
    match datetime? cs with
    | some s => some (.datetime s)
    | none =>
      match integer? cs with
      | some i => some (.integer i)
      | none => (float? cs).map .float

/-- Whether a word is a day, behind which a blank may lead on to a time. -/
def isDay (cs : List Char) : Bool :=
  match day? cs with
  | some (_, []) => true
  | _ => false

end RollCall.Toml
