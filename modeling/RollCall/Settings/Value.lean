import RollCall.Number.Literal
import RollCall.Number.Shortest

set_option autoImplicit false

/-!
The values that a setting may be given, whatever it is read from, and how they become text or a
whole number. Text and numbers stand in for each other wherever that has a meaning.
-/
namespace RollCall

inductive SettingValue where
  | text (s : String)
  | int (i : Int)
  | real (x : Real)
  | bool (b : Bool)
  /-- Null, a list or a table; no setting has such a value. -/
  | unusable
deriving DecidableEq, Repr

namespace SettingValue

/-- Numbers are written in full, without an exponent and without a point that is not needed. -/
def numberStyle : Double.Style := ⟨fun _ => true, false⟩

def realText : Real → String
  | .finite x => String.ofList (x.text numberStyle)
  | .infinite false => "inf"
  | .infinite true => "-inf"
  | .notANumber => "NaN"

/-- The nearest whole number from 0 to the greatest of 64 bits, a half being rounded up. -/
def realWord : Real → UInt64
  | .finite x =>
    if x.negative then 0
    else
      let r := x.ratio
      UInt64.ofNat (min ((2 * r.1 + r.2) / (2 * r.2)) (Width.words64 - 1))
  | .infinite false => UInt64.ofNat (Width.words64 - 1)
  | .infinite true | .notANumber => 0

/-- Words in any case that stand for one and zero; other text must be a whole number. -/
def textWord? (s : String) : Option UInt64 :=
  let word := s.toLower
  if ["true", "on", "yes"].contains word then some 1
  else if ["false", "off", "no"].contains word then some 0
  else (Literal.word64? 10 s.toList).map UInt64.ofNat

/-- A number or truth value becomes the text of it. -/
def toText? : SettingValue → Option String
  | .text s => some s
  | .int i => some (toString i)
  | .real x => some (realText x)
  | .bool b => some (if b then "true" else "false")
  | .unusable => none

/-- A truth value becomes 1 or 0. -/
def toWord? : SettingValue → Option UInt64
  | .text s => textWord? s
  | .int i => if Width.isWord64 i then some (UInt64.ofNat i.toNat) else none
  | .real x => some (realWord x)
  | .bool b => some (if b then 1 else 0)
  | .unusable => none

end SettingValue

end RollCall
