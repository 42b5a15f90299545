import RollCall.Number.Shortest

set_option autoImplicit false

/-!
JSON values. The fields of an object are a list; an object is in order when its keys increase by
code point and no key repeats, and `canonical` brings every object of a value into that order, the
last of equal keys winning.
-/
namespace RollCall

/-- A JSON value. Whole numbers are exact, all others are doubles. -/
inductive Json where
  | null
  | bool (b : Bool)
  | int (i : Int)
  | double (x : Double)
  | string (s : String)
  | array (items : List Json)
  | object (fields : List (String × Json))
deriving Repr, Inhabited

namespace Json

/-- Puts a field at its place among ordered fields, in place of one of the same key. -/
def insertField (key : String) (v : Json) : List (String × Json) → List (String × Json)
  | [] => [(key, v)]
  | (k, w) :: rest =>
    if key < k then (key, v) :: (k, w) :: rest
    else if key = k then (key, v) :: rest
    else (k, w) :: insertField key v rest

mutual

def canonical : Json → Json
  | .array items => .array (canonicalItems items)
  | .object fields => .object (canonicalFields fields [])
  | v => v

def canonicalItems : List Json → List Json
  | [] => []
  | v :: rest => canonical v :: canonicalItems rest

/-- Moves fields one by one into the ordered ones. -/
def canonicalFields : List (String × Json) → List (String × Json) → List (String × Json)
  | [], ordered => ordered
  | (k, v) :: rest, ordered => canonicalFields rest (insertField k (canonical v) ordered)

end

/-- An object with ordered fields. -/
def ofFields (fields : List (String × Json)) : Json :=
  .object (fields.foldl (fun ordered f => insertField f.1 f.2 ordered) [])

/-- The value under a key, the first of equal keys. -/
def lookup (key : String) (fields : List (String × Json)) : Option Json :=
  List.lookup key fields

def field? (key : String) : Json → Option Json
  | .object fields => lookup key fields
  | _ => none

end Json

end RollCall
