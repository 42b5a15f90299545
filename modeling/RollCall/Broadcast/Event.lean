import RollCall.Wire.Message

set_option autoImplicit false

/-!
What a streaming broadcast reports: each answer and each failure as it arrives, and at the end those
who are missing.
-/
namespace RollCall

inductive BroadcastEvent where
  | delivered (sender : RecipientId) (payload : String)
  | failed (sender : RecipientId) (error : RemoteError)
  /-- Those who never answered, with what went wrong on the channel. -/
  | missingSummary (recipients : List RecipientId) (notes : List String)
deriving DecidableEq, Repr

namespace BroadcastEvent

/-- Whom the event is about; nobody for the summary. -/
def sender? : BroadcastEvent → Option RecipientId
  | .delivered r _ => some r
  | .failed r _ => some r
  | .missingSummary _ _ => none

def toJson : BroadcastEvent → Json
  | .delivered r payload =>
    .object [("event", .string "delivered"), ("payload", .string payload), ("sender", r.toJson)]
  | .failed r e =>
    .object [("error", e.toJson), ("event", .string "failed"), ("sender", r.toJson)]
  | .missingSummary rs notes =>
    .object [("event", .string "missing_summary"), ("notes", .array (notes.map Json.string)),
      ("recipients", .array (rs.map RecipientId.toJson))]

def name : BroadcastEvent → String
  | .delivered _ _ => "delivered"
  | .failed _ _ => "failed"
  | .missingSummary _ _ => "missing_summary"

/-- The names of the fields of an event, in order. -/
def fieldNames : String → List String
  | "delivered" => ["sender", "payload"]
  | "failed" => ["sender", "error"]
  | "missing_summary" => ["recipients", "notes"]
  | _ => []

def ofFields? (name : String) (v : Json) : Option BroadcastEvent :=
  match name, Wire.slots? (fieldNames name) v with
  | "delivered", some [sender, payload] => do
    let sender ← Wire.required RecipientId.ofJson? sender
    let payload ← Wire.required Wire.string? payload
    return .delivered sender payload
  | "failed", some [sender, error] => do
    let sender ← Wire.required RecipientId.ofJson? sender
    let error ← Wire.required RemoteError.ofJson? error
    return .failed sender error
  | "missing_summary", some [recipients, notes] => do
    let recipients ← Wire.required (Wire.list? RecipientId.ofJson?) recipients
    let notes ← Wire.required (Wire.list? Wire.string?) notes
    return .missingSummary recipients notes
  | _, _ => none

def ofJson? (v : Json) : Option BroadcastEvent :=
  (Wire.tagged? "event" v).bind fun e => ofFields? e.1 e.2

end BroadcastEvent

end RollCall
