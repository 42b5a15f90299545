import RollCall.Broadcast.Outcome
import RollCall.Relay.Result

set_option autoImplicit false

/-!
Workflow plans: a name, an opening payload, and one broadcast or relay. A plan needs a name, and a
deadline that it states must not be zero.
-/
namespace RollCall

inductive Workflow where
  | broadcast (recipients : List RecipientId) (deadlineMs : Option UInt64)
  | relay (seeds : List RecipientId) (marker : String) (deadlineMs : Option UInt64)
deriving DecidableEq, Repr

namespace Workflow

def pattern : Workflow → String
  | .broadcast _ _ => "broadcast"
  | .relay _ _ _ => "relay"

def deadlineMs : Workflow → Option UInt64
  | .broadcast _ d => d
  | .relay _ _ d => d

def toJson : Workflow → Json
  | .broadcast recipients deadlineMs =>
    .object [("deadline_ms", Wire.orNull Wire.word deadlineMs), ("pattern", .string "broadcast"),
      ("recipients", .array (recipients.map RecipientId.toJson))]
  | .relay seeds marker deadlineMs =>
    .object [("deadline_ms", Wire.orNull Wire.word deadlineMs), ("pattern", .string "relay"),
      ("seed_recipients", .array (seeds.map RecipientId.toJson)),
      ("terminal_marker", .string marker)]

/-- A deadline may be left out in every form. -/
def deadline? : Wire.Slot → Option (Option UInt64) := Wire.defaulted none (Wire.nullable Wire.word?)

/-- The names of the fields of a pattern, in order. -/
def fieldNames : String → List String
  | "broadcast" => ["recipients", "deadline_ms"]
  | "relay" => ["seed_recipients", "terminal_marker", "deadline_ms"]
  | _ => []

def ofFields? (pattern : String) (v : Json) : Option Workflow :=
  match pattern, Wire.slots? (fieldNames pattern) v with
  | "broadcast", some [recipients, deadlineMs] => do
    let recipients ← Wire.required (Wire.list? RecipientId.ofJson?) recipients
    let deadlineMs ← deadline? deadlineMs
    return .broadcast recipients deadlineMs
  | "relay", some [seeds, marker, deadlineMs] => do
    let seeds ← Wire.required (Wire.list? RecipientId.ofJson?) seeds
    let marker ← Wire.required Wire.string? marker
    let deadlineMs ← deadline? deadlineMs
    return .relay seeds marker deadlineMs
  | _, _ => none

def ofJson? (v : Json) : Option Workflow :=
  (Wire.tagged? "pattern" v).bind fun p => ofFields? p.1 p.2

end Workflow

structure WorkflowPlan where
  name : String
  payload : Json
  workflow : Workflow

inductive PlanFault where
  | noName
  | zeroDeadline (name : String)
deriving DecidableEq, Repr

def PlanFault.message : PlanFault → String
  | .noName => "workflow plan needs a name"
  | .zeroDeadline name => name ++ ": deadline_ms must be positive"

namespace WorkflowPlan

def fault? (p : WorkflowPlan) : Option PlanFault :=
  if Text.isBlank p.name then some .noName
  else if p.workflow.deadlineMs = some 0 then some (.zeroDeadline p.name)
  else none

theorem fault?_eq_none_iff {p : WorkflowPlan} :
    p.fault? = none ↔ Text.isBlank p.name = false ∧ p.workflow.deadlineMs ≠ some 0 := by
  unfold fault?
  split
  · rename_i blank
    simp [blank]
  · rename_i named
    simp [named]

def toJson (p : WorkflowPlan) : Json :=
  .object [("name", .string p.name), ("payload", p.payload), ("workflow", p.workflow.toJson)]

def ofJson? (v : Json) : Option WorkflowPlan :=
  match Wire.slots? ["name", "payload", "workflow"] v with
  | some [name, payload, workflow] => do
    let name ← Wire.required Wire.string? name
    let payload ← Wire.required some payload
    let workflow ← Wire.required Workflow.ofJson? workflow
    return ⟨name, payload, workflow⟩
  | _ => none

end WorkflowPlan

inductive WorkflowOutcome where
  | broadcast (outcome : BroadcastOutcome)
  | relay (result : RelayResult)

namespace WorkflowOutcome

def toJson : WorkflowOutcome → Json
  | .broadcast o => .object [("outcome", o.toJson), ("pattern", .string "broadcast")]
  | .relay r => .object [("outcome", r.toJson), ("pattern", .string "relay")]

def ofJson? (v : Json) : Option WorkflowOutcome :=
  match Wire.tagContent? "pattern" "outcome" v with
  | some ("broadcast", .given v) => (BroadcastOutcome.ofJson? v).map .broadcast
  | some ("relay", .given v) => (RelayResult.ofJson? v).map .relay
  | _ => none

end WorkflowOutcome

end RollCall
