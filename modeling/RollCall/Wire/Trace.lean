import RollCall.Trace.Basic
import RollCall.Wire.Message

set_option autoImplicit false

/-!
Steps, traces and route entries as JSON, and the stored record of a trace with its expiry.
-/
namespace RollCall

namespace Step

def toJson (s : Step) : Json :=
  .object [("end_time", Wire.orNull Timestamp.toJson s.endTime),
    ("participant", .string s.participant),
    ("start_time", s.startTime.toJson),
    ("step_id", s.stepId.toJson),
    ("success", Wire.orNull Json.bool s.success)]

def ofJson? (v : Json) : Option Step :=
  match Wire.slots? ["step_id", "participant", "start_time", "end_time", "success"] v with
  | some [stepId, participant, startTime, endTime, success] => do
    let stepId ← Wire.required StepId.ofJson? stepId
    let participant ← Wire.required Wire.string? participant
    let startTime ← Wire.required Timestamp.ofJson? startTime
    let endTime ← Wire.optional Timestamp.ofJson? endTime
    let success ← Wire.optional Wire.bool? success
    return ⟨stepId, participant, startTime, endTime, success⟩
  | _ => none

end Step

namespace RequestTrace

def toJson (t : RequestTrace) : Json :=
  .object [("request_id", t.requestId.toJson), ("steps", .array (t.steps.map Step.toJson))]

def ofJson? (v : Json) : Option RequestTrace :=
  match Wire.slots? ["request_id", "steps"] v with
  | some [id, steps] => do
    let id ← Wire.required RequestId.ofJson? id
    let steps ← Wire.required (Wire.list? Step.ofJson?) steps
    return ⟨id, steps⟩
  | _ => none

end RequestTrace

namespace StepStatus

def name : StepStatus → String
  | .open => "open"
  | .succeeded => "succeeded"
  | .failed => "failed"
  | .abandoned => "abandoned"

def toJson (s : StepStatus) : Json := .string s.name

def ofName? : String → Option StepStatus
  | "open" => some .open
  | "succeeded" => some .succeeded
  | "failed" => some .failed
  | "abandoned" => some .abandoned
  | _ => none

def ofJson? (v : Json) : Option StepStatus := (Wire.name? v).bind ofName?

end StepStatus

namespace RouteEntry

def toJson (e : RouteEntry) : Json :=
  .object [("duration_ms", Wire.orNull Wire.word e.durationMs),
    ("participant", .string e.participant),
    ("status", e.status.toJson)]

def ofJson? (v : Json) : Option RouteEntry :=
  match Wire.slots? ["participant", "status", "duration_ms"] v with
  | some [participant, status, durationMs] => do
    let participant ← Wire.required Wire.string? participant
    let status ← Wire.required StepStatus.ofJson? status
    let durationMs ← Wire.optional Wire.word? durationMs
    return ⟨participant, status, durationMs⟩
  | _ => none

end RouteEntry

/-- A trace as it is stored, with the instant from which it is no longer served. -/
structure Record where
  expiresAt : Timestamp
  trace : RequestTrace
deriving DecidableEq, Repr

namespace Record

def toJson (r : Record) : Json :=
  .object [("expires_at", r.expiresAt.toJson), ("trace", r.trace.toJson)]

def ofJson? (v : Json) : Option Record :=
  match Wire.slots? ["expires_at", "trace"] v with
  | some [expiresAt, trace] => do
    let expiresAt ← Wire.required Timestamp.ofJson? expiresAt
    let trace ← Wire.required RequestTrace.ofJson? trace
    return ⟨expiresAt, trace⟩
  | _ => none

end Record

end RollCall
