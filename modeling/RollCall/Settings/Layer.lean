import RollCall.Settings.Basic
import RollCall.Settings.Value

set_option autoImplicit false

/-!
Settings in layers. Each field is decided by the first layer that defines it, or else by its
standard value; every value must have a meaning for its field, and the settings must be acceptable.
-/
namespace RollCall

/-- What one source says, key by key as written; of equal keys the last counts. -/
abbrev SettingLayer := List (String × SettingValue)

namespace SettingLayer

/-- The characters of names within a key. -/
def isNameChar (c : Char) : Bool := c.isAlphanum || c == ' ' || c == '_' || c == '-'

/-- What is behind an index in brackets. -/
def afterIndex? (cs : List Char) : Option (List Char) :=
  let isBlank (c : Char) : Bool := c == ' ' || c == '\t'
  let digits := match cs.dropWhile isBlank with
    | '+' :: r | '-' :: r => r
    | r => r
  match (digits.dropWhile Char.isDigit).dropWhile isBlank with
  | ']' :: r => if digits.head?.any Char.isDigit then some r else none
  | _ => none

/-- Whether a text leads on to a part of a value: names behind points, and indices in brackets. -/
def isPath : Nat → List Char → Bool
  | 0, _ => false
  | _ + 1, [] => true
  | fuel + 1, '.' :: r => r.head?.any isNameChar && isPath fuel (r.dropWhile isNameChar)
  | fuel + 1, '[' :: r =>
    match afterIndex? r with
    | some r => isPath fuel r
    | none => false
  | _ + 1, _ => false

/-- Whether a key in lower case is that of a part of a field. -/
def isPartOf (field key : List Char) : Bool :=
  let rest := key.drop field.length
  field.isPrefixOf key && !rest.isEmpty && isPath (rest.length + 1) rest

/-- What an entry says about a field. A field of which a part is set has no value of its own. -/
def definition? (field : String) (entry : String × SettingValue) : Option SettingValue :=
  let key := entry.1.toLower
  if key = field then some entry.2
  else if isPartOf field.toList key.toList then some .unusable
  else none

def value? (l : SettingLayer) (field : String) : Option SettingValue :=
  l.reverse.findSome? (definition? field)

@[simp] theorem value?_nil (field : String) : value? [] field = none := rfl

end SettingLayer

namespace Settings

/-- What the first of some layers that defines a field says about it. -/
def chosen? (layers : List SettingLayer) (field : String) : Option SettingValue :=
  layers.findSome? fun l => l.value? field

@[simp] theorem chosen?_nil (field : String) : chosen? [] field = none := rfl

theorem chosen?_cons (l : SettingLayer) (layers : List SettingLayer) (field : String) :
    chosen? (l :: layers) field = (l.value? field).or (chosen? layers field) := by
  cases h : l.value? field <;> simp [chosen?, h]

/-- The value of a field: the standard one when no layer defines it. -/
def field? {α : Type} (convert : SettingValue → Option α) (standard : α)
    (layers : List SettingLayer) (name : String) : Option α :=
  match chosen? layers name with
  | some v => convert v
  | none => some standard

def textField? (standard : String) : List SettingLayer → String → Option String :=
  field? SettingValue.toText? standard

def wordField? (standard : UInt64) : List SettingLayer → String → Option UInt64 :=
  field? SettingValue.toWord? standard

/-- The settings that layers give, acceptable or not. -/
def ofLayers? (layers : List SettingLayer) : Option Settings := do
  let d := standard
  let coordinator ← textField? d.coordinator layers "coordinator"
  let broadcast ← wordField? d.broadcastDeadlineMs layers "broadcast_deadline_ms"
  let dispatch ← wordField? d.dispatchTimeoutMs layers "dispatch_timeout_ms"
  let relay ← wordField? d.relayDeadlineMs layers "relay_deadline_ms"
  let ttl ← wordField? d.traceTtlSecs layers "trace_ttl_secs"
  let store ← wordField? d.traceStoreTimeoutMs layers "trace_store_timeout_ms"
  let topic ← textField? d.topicPrefix layers "topic_prefix"
  return ⟨coordinator, broadcast, dispatch, relay, ttl, store, topic⟩

/-- The settings that layers give, the strongest first. -/
def ofLayers (layers : List SettingLayer) : Except Error Settings :=
  match ofLayers? layers with
  | none => .error (.config "a setting has no value that can be used")
  | some s =>
    match s.fault? with
    | some f => .error f.toError
    | none => .ok s

end Settings

end RollCall
