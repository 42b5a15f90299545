import RollCall.Error
import RollCall.Text.Blank
import RollCall.Wire.Basic

set_option autoImplicit false

/-!
The two formats of log output and the names by which they are asked for.
-/
namespace RollCall

inductive LogFormat where
  /-- Lines for people. -/
  | pretty
  /-- One JSON object per event. -/
  | json
deriving DecidableEq, Repr

namespace LogFormat

def standard : LogFormat := .pretty

def name : LogFormat → String
  | .pretty => "pretty"
  | .json => "json"

/-- The text that is compared with the names: trimmed, with ASCII letters in lower case. -/
def normalize (s : String) : String := (Text.trim s).map Char.toLower

def ofText (s : String) : Except Error LogFormat :=
  match normalize s with
  | "pretty" => .ok .pretty
  | "text" => .ok .pretty
  | "json" => .ok .json
  | other => .error (.config ("unknown log format: " ++ other))

def toJson (f : LogFormat) : Json := .string f.name

def ofJson? (v : Json) : Option LogFormat :=
  match Wire.name? v with
  | some "pretty" => some .pretty
  | some "json" => some .json
  | _ => none

end LogFormat

end RollCall
