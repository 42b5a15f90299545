set_option autoImplicit false

/-!
The nodes of a YAML document. An alias holds the node that it names, so a node is a finite tree; an
alias within the node that it names is a cycle and has no value.
-/
namespace RollCall.Yaml

inductive Node where
  | scalar (text : String) (isPlain : Bool) (tag : Option String)
  | sequence (items : List Node) (tag : Option String)
  | mapping (entries : List (Node × Node)) (tag : Option String)
  | alias (target : Node)
  | cycle
deriving Repr

namespace Node

/-- What stands where nothing is written. -/
def empty : Node := .scalar "" true none

mutual

/-- The number of scalars, aliases, beginnings and ends; what an alias names is not counted. -/
def size : Node → Nat
  | .scalar _ _ _ | .alias _ | .cycle => 1
  | .sequence items _ => sizeItems items + 2
  | .mapping entries _ => sizeEntries entries + 2

def sizeItems : List Node → Nat
  | [] => 0
  | n :: rest => size n + sizeItems rest

def sizeEntries : List (Node × Node) → Nat
  | [] => 0
  | (k, v) :: rest => size k + size v + sizeEntries rest

end

end Node

end RollCall.Yaml
