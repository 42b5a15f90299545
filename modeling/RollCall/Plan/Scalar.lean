import RollCall.Json.Basic
import RollCall.Number.Literal

set_option autoImplicit false

/-!
What the scalars of a plan mean. A plain scalar is null, a truth value, a number or else text; one
in quotes is text; a tag for one of those kinds decides.
-/
namespace RollCall.PlanScalar

def isNull (s : String) : Bool := ["null", "Null", "NULL", "~"].contains s

def bool? (s : String) : Option Bool :=
  if ["true", "True", "TRUE"].contains s then some true
  else if ["false", "False", "FALSE"].contains s then some false
  else none

/-- Several digits of which the first is a zero; such a scalar is no number. -/
def isPadded (cs : List Char) : Bool :=
  let digits := match cs with
    | '-' :: r | '+' :: r => r
    | r => r
  1 < digits.length && digits.head? == some '0' && digits.all Char.isDigit

/-- A whole number to the base that its first two characters state, its sign apart. -/
def based? : List Char → Option Nat
  | '0' :: 'x' :: r => Literal.natural? 16 r
  | '0' :: 'o' :: r => Literal.natural? 8 r
  | '0' :: 'b' :: r => Literal.natural? 2 r
  | _ => none

def natural? (cs : List Char) : Option Nat := (based? cs).or (Literal.natural? 10 cs)

def integer? (cs : List Char) : Option Int :=
  if isPadded cs then none
  else
    match cs with
    | '-' :: r => (natural? r).map fun n => -(n : Int)
    | '+' :: r => (natural? r).map fun n => (n : Int)
    | r => (natural? r).map fun n => (n : Int)

/-- Whole numbers that are kept as such; of the others, those of 128 bits are refused. -/
def isKept (i : Int) : Bool := Width.isInt64 i || Width.isWord64 i

def isRefused (i : Int) : Bool := !isKept i && (Width.isInt128 i || Width.isWord128 i)

/-- A number with a point or exponent, or one that is not finite. -/
def real? (cs : List Char) : Option Real :=
  let (plus, rest) := match cs with
    | '+' :: r => (true, r)
    | r => (false, r)
  if plus && (rest.head? == some '+' || rest.head? == some '-') then none
  else
    let s := String.ofList rest
    if [".inf", ".Inf", ".INF"].contains s then some (.infinite false)
    else if !plus && ["-.inf", "-.Inf", "-.INF"].contains s then some (.infinite true)
    else if !plus && [".nan", ".NaN", ".NAN"].contains s then some .notANumber
    else (Literal.double? rest).map .finite

/-- A whole number, if the text is one; its value is nothing where that is refused. -/
def whole? (cs : List Char) : Option (Option Json) :=
  match integer? cs with
  | some i => if isKept i then some (some (.int i)) else if isRefused i then some none else none
  | none => none

/-- A number as JSON, with `notFinite` for what is not finite. -/
def ofReal (notFinite : Json) : Real → Json
  | .finite x => .double x
  | _ => notFinite

def plain? (notFinite : Json) (s : String) : Option Json :=
  if s.isEmpty || isNull s then some .null
  else
    match bool? s with
    | some b => some (.bool b)
    | none =>
      match whole? s.toList with
      | some v => v
      | none =>
        if isPadded s.toList then some (.string s)
        else
          match real? s.toList with
          | some x => some (ofReal notFinite x)
          | none => some (.string s)

/-- A tag that is no standard one; no field of a plan has a value of such a kind. -/
def isOwnTag (tag : Option String) : Bool := tag.any fun t => t.toList.head? == some '!'

/-- The value of a scalar, if it is acceptable. -/
def value? (notFinite : Json) (s : String) (isPlain : Bool) (tag : Option String) : Option Json :=
  match tag with
  | none => if isPlain then plain? notFinite s else some (.string s)
  | some tag =>
    if isOwnTag (some tag) then none
    else
      match tag with
      | "tag:yaml.org,2002:bool" => (bool? s).map .bool
      | "tag:yaml.org,2002:int" => (whole? s.toList).bind id
      | "tag:yaml.org,2002:float" => (real? s.toList).map (ofReal notFinite)
      | "tag:yaml.org,2002:null" => if isNull s then some .null else none
      | _ => some (.string s)

end RollCall.PlanScalar
