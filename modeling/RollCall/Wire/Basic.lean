import RollCall.Json.Basic

set_option autoImplicit false

/-!
Reading typed values from JSON. A structure is given by an object, whose unknown keys are ignored,
or by an array of its fields in order; a choice is given by its name, or by an object with the name
as its only key.
-/
namespace RollCall.Wire

/-- The number of fields of a key. -/
def occurrences (key : String) (fields : List (String × Json)) : Nat :=
  (fields.filter fun f => f.1 == key).length

/-- The value of one field of a structure. -/
inductive Slot where
  | given (v : Json)
  /-- Its key is not there. -/
  | absent
  /-- The array of the structure's fields ends before it. -/
  | cutOff

/-- The slots of a structure, in the order of its names; a repeated key is refused. -/
def slots? (names : List String) : Json → Option (List Slot)
  | .object fields =>
    if names.all fun n => occurrences n fields ≤ 1 then
      some (names.map fun n =>
        match Json.lookup n fields with
        | some v => .given v
        | none => .absent)
    else none
  | .array items =>
    if items.length ≤ names.length then
      some (items.map .given ++ List.replicate (names.length - items.length) .cutOff)
    else none
  | _ => none

def required {α : Type} (decode : Json → Option α) : Slot → Option α
  | .given v => decode v
  | _ => none

/-- A value or null. -/
def nullable {α : Type} (decode : Json → Option α) : Json → Option (Option α)
  | .null => some none
  | v => (decode v).map some

/-- A field that may be null or absent. -/
def optional {α : Type} (decode : Json → Option α) : Slot → Option (Option α)
  | .given v => nullable decode v
  | .absent => some none
  | .cutOff => none

/-- A field with a value of its own when it is not there. -/
def defaulted {α : Type} (value : α) (decode : Json → Option α) : Slot → Option α
  | .given v => decode v
  | _ => some value

def string? : Json → Option String
  | .string s => some s
  | _ => none

def bool? : Json → Option Bool
  | .bool b => some b
  | _ => none

def word? : Json → Option UInt64
  | .int i => if Width.isWord64 i then some (UInt64.ofNat i.toNat) else none
  | _ => none

def word (n : UInt64) : Json := .int n.toNat

/-- All items decoded, or nothing. -/
def each? {α β : Type} (decode : α → Option β) : List α → Option (List β)
  | [] => some []
  | a :: rest =>
    match decode a, each? decode rest with
    | some b, some bs => some (b :: bs)
    | _, _ => none

def list? {α : Type} (decode : Json → Option α) : Json → Option (List α)
  | .array items => each? decode items
  | _ => none

/-- The name of a choice that carries nothing. -/
def name? : Json → Option String
  | .string s => some s
  | .object [(k, .null)] => some k
  | _ => none

def orNull {α : Type} (encode : α → Json) : Option α → Json
  | some a => encode a
  | none => .null

/-- The fields other than one. -/
def without (key : String) (fields : List (String × Json)) : List (String × Json) :=
  fields.filter fun f => f.1 != key

/--
A choice whose name is a field among the others: its name, and the value that holds the others. As
an array, the name comes first.
-/
def tagged? (tag : String) : Json → Option (String × Json)
  | .object fields =>
    match Json.lookup tag fields with
    | some (.string s) => some (s, .object (without tag fields))
    | _ => none
  | .array (.string s :: rest) => some (s, .array rest)
  | _ => none

/-- A choice whose name and content are two fields: the name, and the slot of the content. -/
def tagContent? (tag content : String) : Json → Option (String × Slot)
  | .object fields =>
    match Json.lookup tag fields with
    | some (.string s) =>
      some (s, match Json.lookup content fields with
        | some v => .given v
        | none => .absent)
    | _ => none
  | .array [.string s, v] => some (s, .given v)
  | _ => none

end RollCall.Wire
