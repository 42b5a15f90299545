import RollCall.Json.Parse
import RollCall.Settings.Layer
import RollCall.Toml.Parse
import RollCall.Yaml.Node.Documents

set_option autoImplicit false

/-!
Settings from texts in YAML, JSON and TOML. The root of a text is a mapping of keys to values; an
empty YAML text says nothing.
-/
namespace RollCall

namespace YamlSettings

/-- The words for a number that is not finite. No setting may be one of those with a point. -/
def isDottedWord (s : String) : Bool :=
  [".inf", ".Inf", ".INF", "+.inf", "+.Inf", "+.INF", "-.inf", "-.Inf", "-.INF", ".nan",
    ".NAN"].contains s

/-- A number with a point or exponent; a number that is not finite has a word with a point. -/
def real? (s : String) : Option Real :=
  if s = "NaN" then some .notANumber
  else if s.toList.any Char.isDigit then Literal.real? s.toList
  else none

def integer? (cs : List Char) : Option Int :=
  match cs with
  | '0' :: 'x' :: r => Literal.int64? 16 r
  | '0' :: 'o' :: r => Literal.int64? 8 r
  | '+' :: r => Literal.int64? 10 r
  | cs => Literal.int64? 10 cs

/-- The value of a plain scalar, if it is acceptable. -/
def plain? (s : String) : Option SettingValue :=
  if s = "" ∨ s = "~" ∨ s = "null" then some .unusable
  else if s = "true" then some (.bool true)
  else if s = "false" then some (.bool false)
  else
    match integer? s.toList with
    | some i => some (.int i)
    | none =>
      if isDottedWord s then none
      else
        match real? s with
        | some x => some (.real x)
        | none => some (.text s)

/-- The value of a plain scalar with a tag. -/
def tagged? (s tag : String) : Option SettingValue :=
  match tag with
  | "tag:yaml.org,2002:bool" =>
    some (if s = "true" then .bool true else if s = "false" then .bool false else .unusable)
  | "tag:yaml.org,2002:int" => some ((Literal.int64? 10 s.toList).elim .unusable .int)
  | "tag:yaml.org,2002:float" =>
    if isDottedWord s then none else some ((real? s).elim .unusable .real)
  | "tag:yaml.org,2002:null" => some .unusable
  | _ => some (.text s)

def scalar? (s : String) (isPlain : Bool) (tag : Option String) : Option SettingValue :=
  if isPlain then
    match tag with
    | none => plain? s
    | some tag => tagged? s tag
  else some (.text s)

/-- Keys are texts and whole numbers. -/
def isKey : SettingValue → Bool
  | .text _ | .int _ => true
  | _ => false

def key? : Yaml.Node → Option SettingValue
  | .scalar s isPlain tag => (scalar? s isPlain tag).filter isKey
  | .alias n => key? n
  | _ => none

mutual

/-- Whether all within a node is acceptable; what an alias names is so where it stands. -/
def isSound : Yaml.Node → Bool
  | .scalar s isPlain tag => (scalar? s isPlain tag).isSome
  | .sequence items _ => areSound items
  | .mapping entries _ => areSoundEntries entries []
  | .alias _ | .cycle => true

def areSound : List Yaml.Node → Bool
  | [] => true
  | n :: rest => isSound n && areSound rest

/-- Entries behind some keys; all keys must differ. -/
def areSoundEntries : List (Yaml.Node × Yaml.Node) → List SettingValue → Bool
  | [], _ => true
  | (k, v) :: rest, before =>
    match key? k with
    | some key => !before.contains key && isSound v && areSoundEntries rest (key :: before)
    | none => false

end

/-- The value of a node that is acceptable. -/
def value : Yaml.Node → SettingValue
  | .scalar s isPlain tag => (scalar? s isPlain tag).getD .unusable
  | .alias n => value n
  | _ => .unusable

/-- What an entry says; a whole number as key stands for its text. -/
def entry (e : Yaml.Node × Yaml.Node) : Option (String × SettingValue) :=
  ((key? e.1).bind SettingValue.toText?).map fun k => (k, value e.2)

/-- What a root node says about settings. -/
def layer? (root : Yaml.Node) : Option SettingLayer :=
  match root with
  | .mapping entries _ => if isSound root then some (entries.filterMap entry) else none
  | _ => none

end YamlSettings

namespace SettingLayer

/-- What a YAML text says: one document or none. -/
def ofYaml? (text : String) : Option SettingLayer :=
  match Yaml.documents? .v12 text.toList with
  | some [] => some []
  | some [root] => YamlSettings.layer? root
  | _ => none

/-- A whole number that 64 bits with sign do not hold is taken as a real one. -/
def ofJsonValue : Json → SettingValue
  | .bool b => .bool b
  | .int i =>
    if Width.isInt64 i then .int i
    else
      match Double.ofRatio? false i.toNat 1 with
      | some x => .real (.finite x)
      | none => .unusable
  | .double x => .real (.finite x)
  | .string s => .text s
  | _ => .unusable

def ofJson? (text : String) : Option SettingLayer :=
  match Json.read? text with
  | some (.object fields) => some (fields.map fun f => (f.1, ofJsonValue f.2))
  | _ => none

/-- A time is taken as text. -/
def ofTomlValue : Toml.Value → SettingValue
  | .string s | .datetime s => .text s
  | .integer i => .int i
  | .float x => .real x
  | .boolean b => .bool b
  | _ => .unusable

def ofToml? (text : String) : Option SettingLayer :=
  (Toml.parse? text).map fun t => t.map fun e => (e.1, ofTomlValue e.2)

end SettingLayer

/-- The formats of the standard reader of files; another reader may know more. -/
inductive SettingsFormat where
  | yaml
  | json
  | toml
deriving DecidableEq, Repr

namespace SettingsFormat

/-- What is behind the last point of a file's name, unless the point comes first. -/
def extension? (name : String) : Option String :=
  let reversed := name.toList.reverse.takeWhile (· != '/')
  let start := (reversed.dropWhile (· != '.')).drop 1
  if start.isEmpty then none else some (String.ofList (reversed.takeWhile (· != '.')).reverse)

/-- The format of a file, by the extension of its name. -/
def ofName? (name : String) : Option SettingsFormat :=
  match extension? name with
  | some "yaml" | some "yml" => some .yaml
  | some "json" => some .json
  | some "toml" => some .toml
  | _ => none

def layer? (f : SettingsFormat) (text : String) : Option SettingLayer :=
  match f with
  | .yaml => SettingLayer.ofYaml? text
  | .json => SettingLayer.ofJson? text
  | .toml => SettingLayer.ofToml? text

end SettingsFormat

end RollCall
