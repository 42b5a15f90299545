import RollCall.Error
import RollCall.Plan.Basic
import RollCall.Plan.Scalar
import RollCall.Text.Mark
import RollCall.Yaml.Node.Documents

set_option autoImplicit false

/-!
Reading plans from YAML. A text is one document: a mapping whose name is any scalar, whose payload
is any value, and whose workflow is a mapping with a pattern. An unknown key is passed over, a key
that is there twice is refused, and so is a plan that is not acceptable.
-/
namespace RollCall

namespace PlanReader

/-- A visit of nodes that may follow only so many aliases. -/
abbrev Visit (α : Type) := StateT Nat Option α

def follow : Visit Unit := fun left =>
  match left with
  | 0 => none
  | left + 1 => some ((), left)

/-- How many aliases may be followed in a document, for each of its parts. -/
def aliasesPerPart : Nat := 100

/-- The deepest nesting of lists and mappings. -/
def greatestDepth : Nat := 128

/-- The text of a scalar, whatever it means. -/
def text : Yaml.Node → Visit String
  | .scalar s _ _ => pure s
  | .alias n => do
    follow
    text n
  | _ => failure

/-- What a value is read for. -/
inductive Purpose where
  /-- It is passed on as it is. -/
  | payload
  /-- It is a field of a workflow. -/
  | field
deriving DecidableEq, Repr

/-- A number that is not finite is null in a payload, and in a field nothing that is asked for. -/
def Purpose.notFinite : Purpose → Json
  | .payload => .null
  | .field => .bool true

mutual

/-- A value of any kind; `depth` levels of nesting are still allowed. -/
def value (p : Purpose) (depth : Nat) : Yaml.Node → Visit Json
  | .scalar s isPlain tag =>
    match PlanScalar.value? p.notFinite s isPlain tag with
    | some v => pure v
    | none => failure
  | .sequence items tag =>
    match depth with
    | 0 => failure
    | depth + 1 => do
      if PlanScalar.isOwnTag tag then failure
      return .array (← values p depth items)
  | .mapping entries tag =>
    match depth with
    | 0 => failure
    | depth + 1 => do
      if PlanScalar.isOwnTag tag then failure
      return .object (← entryValues p depth entries)
  | .alias n => do
    follow
    value p depth n
  | .cycle => failure

def values (p : Purpose) (depth : Nat) : List Yaml.Node → Visit (List Json)
  | [] => pure []
  | n :: rest => do
    let v ← value p depth n
    return v :: (← values p depth rest)

/-- The fields of a payload have names. Those of a mapping in a field are read but not asked for. -/
def entryValues (p : Purpose) (depth : Nat) : List (Yaml.Node × Yaml.Node) →
    Visit (List (String × Json))
  | [] => pure []
  | (k, v) :: rest => do
    match p with
    | .payload =>
      let name ← text k
      let v ← value p depth v
      return (name, v) :: (← entryValues p depth rest)
    | .field =>
      let _ ← value p depth k
      let _ ← value p depth v
      entryValues p depth rest

end

/-- A key of a workflow: a name, or the place of a field among those of the pattern. -/
inductive FieldKey where
  | name (s : String)
  | place (i : Nat)
deriving DecidableEq, Repr

def fieldKey (depth : Nat) (n : Yaml.Node) : Visit FieldKey := do
  match ← value .field depth n with
  | .string s => return .name s
  | .int i => if 0 ≤ i then return .place i.toNat else failure
  | _ => failure

def FieldKey.nameIn (pattern : String) : FieldKey → String
  | .name s => s
  | .place i => ((Workflow.fieldNames pattern)[i]?).getD ""

/-- The pattern of a workflow, when it has come up, and its other fields. -/
def workflowFields (depth : Nat) : List (Yaml.Node × Yaml.Node) → Option String →
    List (FieldKey × Json) → Visit (Option String × List (FieldKey × Json))
  | [], pattern, fields => pure (pattern, fields)
  | (k, v) :: rest, pattern, fields => do
    match ← fieldKey depth k with
    | .name "pattern" =>
      if pattern.isSome then failure
      let s ← text v
      workflowFields depth rest (some s) fields
    | key =>
      let v ← value .field depth v
      workflowFields depth rest pattern (fields ++ [(key, v)])

def workflow (depth : Nat) : Yaml.Node → Visit Workflow
  | .mapping entries tag =>
    match depth with
    | 0 => failure
    | depth + 1 => do
      if PlanScalar.isOwnTag tag then failure
      match ← workflowFields depth entries none [] with
      | (some pattern, fields) =>
        let v := Json.object (fields.map fun f => (f.1.nameIn pattern, f.2))
        StateT.lift (Workflow.ofFields? pattern v)
      | (none, _) => failure
  | .sequence (first :: rest) tag =>
    match depth with
    | 0 => failure
    | depth + 1 => do
      if PlanScalar.isOwnTag tag then failure
      let pattern ← text first
      let fields ← values .field depth rest
      StateT.lift (Workflow.ofFields? pattern (.array fields))
  | .alias n => do
    follow
    workflow depth n
  | _ => failure

structure Fields where
  name : Option String := none
  payload : Option Json := none
  workflow : Option Workflow := none

def fields : List (Yaml.Node × Yaml.Node) → Fields → Visit Fields
  | [], f => pure f
  | (k, v) :: rest, f => do
    match ← text k with
    | "name" =>
      if f.name.isSome then failure
      let s ← text v
      fields rest { f with name := some s }
    | "payload" =>
      if f.payload.isSome then failure
      let v ← value .payload (greatestDepth - 1) v
      fields rest { f with payload := some v.canonical }
    | "workflow" =>
      if f.workflow.isSome then failure
      let w ← workflow (greatestDepth - 1) v
      fields rest { f with workflow := some w }
    | _ => fields rest f

def plan? (root : Yaml.Node) : Option WorkflowPlan :=
  match root with
  | .mapping entries _ => do
    let (f, _) ← (fields entries {}).run (aliasesPerPart * root.size)
    return ⟨← f.name, ← f.payload, ← f.workflow⟩
  | _ => none

/-- The characters that may be in the text of a plan. -/
def isPrintable (c : Char) : Bool :=
  let n := c.toNat
  n == 9 || n == 0xA || n == 0xD || (0x20 ≤ n && n ≤ 0x7E) || n == 0x85 ||
    (0xA0 ≤ n && n ≤ 0xFFFD) || 0x10000 ≤ n

end PlanReader

namespace WorkflowPlan

/-- The plan that a text holds, acceptable or not. A byte order mark may stand before it. -/
def parse? (text : String) : Option WorkflowPlan :=
  if text.toList.all PlanReader.isPrintable then
    match Yaml.documents? .v11 (Text.withoutMark text.toList) with
    | some [root] => PlanReader.plan? root
    | _ => none
  else none

/-- The plan that a text holds, if it is acceptable. -/
def ofYaml (text : String) : Except Error WorkflowPlan :=
  match parse? text with
  | none => .error (.yaml "not a workflow plan")
  | some p =>
    match p.fault? with
    | some f => .error (.config f.message)
    | none => .ok p

theorem ofYaml_eq_ok_iff {text : String} {p : WorkflowPlan} :
    ofYaml text = .ok p ↔ parse? text = some p ∧ p.fault? = none := by
  unfold ofYaml
  cases parse? text with
  | none => simp
  | some q =>
    dsimp only
    split
    · rename_i f faulty
      simp only [reduceCtorEq, Option.some.injEq, false_iff, not_and]
      intro same
      simp [← same, faulty]
    · rename_i sound
      simp only [Except.ok.injEq, Option.some.injEq]
      exact ⟨fun same => ⟨same, same ▸ sound⟩, And.left⟩

/-- The plan in a file, given by its content if the file exists. -/
def ofFile (content : Option ByteArray) : Except Error WorkflowPlan :=
  match content with
  | none => .error (.io "no such file")
  | some bytes =>
    match String.fromUTF8? bytes with
    | some text => ofYaml text
    | none => .error (.io "the file is not valid UTF-8")

end WorkflowPlan

end RollCall
