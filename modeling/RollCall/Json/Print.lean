import RollCall.Json.Basic

set_option autoImplicit false

/-!
The compact text of a JSON value: no spaces, only the characters escaped that must be, and doubles
with the fewest digits that read back.
-/
namespace RollCall.Json

/-- Doubles keep a zero after the point, and have an exponent outside of `10 ^ -5 … 10 ^ 15`. -/
def numberStyle : Double.Style := ⟨fun e => -5 ≤ e && e ≤ 15, true⟩

def intText (i : Int) : List Char :=
  if i < 0 then '-' :: Nat.toDigits 10 i.natAbs else Nat.toDigits 10 i.natAbs

/-- A lower-case hexadecimal digit. -/
def hexDigit (n : Nat) : Char := Nat.digitChar n

def escapeChar (c : Char) : List Char :=
  if c = '"' then ['\\', '"']
  else if c = '\\' then ['\\', '\\']
  else if c = '\n' then ['\\', 'n']
  else if c = '\r' then ['\\', 'r']
  else if c = '\t' then ['\\', 't']
  else if c.toNat = 8 then ['\\', 'b']
  else if c.toNat = 12 then ['\\', 'f']
  else if c.toNat < 0x20 then
    ['\\', 'u', '0', '0', hexDigit (c.toNat / 16), hexDigit (c.toNat % 16)]
  else [c]

def escape (cs : List Char) : List Char := cs.flatMap escapeChar

def quote (s : String) : List Char := '"' :: (escape s.toList ++ ['"'])

mutual

def print : Json → List Char
  | .null => ['n', 'u', 'l', 'l']
  | .bool true => ['t', 'r', 'u', 'e']
  | .bool false => ['f', 'a', 'l', 's', 'e']
  | .int i => intText i
  | .double x => x.text numberStyle
  | .string s => quote s
  | .array items => '[' :: printItems items
  | .object fields => '{' :: printFields fields

/-- The items with the bracket that closes them. -/
def printItems : List Json → List Char
  | [] => [']']
  | [v] => print v ++ [']']
  | v :: w :: rest => print v ++ ',' :: printItems (w :: rest)

/-- The fields with the brace that closes them. -/
def printFields : List (String × Json) → List Char
  | [] => ['}']
  | [(k, v)] => quote k ++ ':' :: print v ++ ['}']
  | (k, v) :: f :: rest => quote k ++ ':' :: print v ++ ',' :: printFields (f :: rest)

end

def render (v : Json) : String := String.ofList (print v)

end RollCall.Json
