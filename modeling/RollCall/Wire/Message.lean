import RollCall.Error
import RollCall.Message.Basic
import RollCall.Wire.Basic

set_option autoImplicit false

/-!
Identifiers, requests, replies and remote errors as JSON.
-/
namespace RollCall

namespace RecipientId

def toJson (r : RecipientId) : Json := .string r.text

def ofJson? (v : Json) : Option RecipientId := (Wire.string? v).map RecipientId.mk

end RecipientId

namespace RequestId

def toJson (r : RequestId) : Json := .string r.text

def ofJson? (v : Json) : Option RequestId := (Wire.string? v).map RequestId.mk

end RequestId

namespace StepId

def toJson (s : StepId) : Json := .string s.text

def ofJson? (v : Json) : Option StepId := (Wire.string? v).bind StepId.parse?

end StepId

namespace Timestamp

def toJson (t : Timestamp) : Json := .string t.text

def ofJson? (v : Json) : Option Timestamp := (Wire.string? v).bind Timestamp.parse?

end Timestamp

namespace Span

def toJson (d : Span) : Json :=
  .object [("nanos", .int d.nanos), ("secs", Wire.word d.secs)]

/-- Seconds and 32-bit nanoseconds; a thousand million and more of the latter carry over. -/
def ofParts? (secs : UInt64) (nanos : Nat) : Option Span :=
  if nanos < UInt32.size then Span.ofNanos? (secs.toNat * 1000000000 + nanos) else none

/-- No keys other than the two are allowed. -/
def ofJson? (v : Json) : Option Span :=
  let known :=
    match v with
    | .object fields => fields.all fun f => f.1 == "secs" || f.1 == "nanos"
    | _ => true
  match known, Wire.slots? ["secs", "nanos"] v with
  | true, some [secs, nanos] => do
    let s ← Wire.required Wire.word? secs
    let n ← Wire.required Wire.word? nanos
    ofParts? s n.toNat
  | _, _ => none

end Span

namespace Request

def toJson (r : Request) : Json :=
  .object [("payload", r.payload), ("request_id", r.requestId.toJson)]

def ofJson? (v : Json) : Option Request :=
  match Wire.slots? ["request_id", "payload"] v with
  | some [id, payload] => do
    let id ← Wire.required RequestId.ofJson? id
    let payload ← Wire.required some payload
    return ⟨id, payload⟩
  | _ => none

end Request

namespace ReplyBody

def toJson : ReplyBody → Json
  | .payload v => .object [("type", .string "payload"), ("value", v)]
  | .rejected reason => .object [("type", .string "rejected"), ("value", .string reason)]
  | .empty => .object [("type", .string "empty")]

def ofJson? (v : Json) : Option ReplyBody :=
  match Wire.tagContent? "type" "value" v with
  | some ("payload", .given v) => some (.payload v)
  | some ("rejected", .given (.string reason)) => some (.rejected reason)
  | some ("empty", .given .null) => some .empty
  | some ("empty", .absent) => some .empty
  | _ => none

end ReplyBody

namespace Reply

def toJson (r : Reply) : Json :=
  .object [("addressed_to", .array (r.addressedTo.map RecipientId.toJson)),
    ("body", r.body.toJson),
    ("received_at", r.receivedAt.toJson),
    ("sender", r.sender.toJson)]

def ofJson? (v : Json) : Option Reply :=
  match Wire.slots? ["sender", "body", "addressed_to", "received_at"] v with
  | some [sender, body, addressedTo, receivedAt] => do
    let sender ← Wire.required RecipientId.ofJson? sender
    let body ← Wire.required ReplyBody.ofJson? body
    let addressedTo ← Wire.defaulted [] (Wire.list? RecipientId.ofJson?) addressedTo
    let receivedAt ← Wire.required Timestamp.ofJson? receivedAt
    return ⟨sender, body, addressedTo, receivedAt⟩
  | _ => none

end Reply

namespace RemoteErrorKind

def name : RemoteErrorKind → String
  | .emptyReply => "empty_reply"
  | .malformedReply => "malformed_reply"
  | .remoteRejected => "remote_rejected"
  | .transportFailure => "transport_failure"

def toJson (k : RemoteErrorKind) : Json := .string k.name

def ofName? : String → Option RemoteErrorKind
  | "empty_reply" => some .emptyReply
  | "malformed_reply" => some .malformedReply
  | "remote_rejected" => some .remoteRejected
  | "transport_failure" => some .transportFailure
  | _ => none

def ofJson? (v : Json) : Option RemoteErrorKind := (Wire.name? v).bind ofName?

end RemoteErrorKind

namespace RemoteError

def toJson (e : RemoteError) : Json :=
  .object [("detail", .string e.detail), ("kind", e.kind.toJson)]

def ofJson? (v : Json) : Option RemoteError :=
  match Wire.slots? ["kind", "detail"] v with
  | some [kind, detail] => do
    let kind ← Wire.required RemoteErrorKind.ofJson? kind
    let detail ← Wire.required Wire.string? detail
    return ⟨kind, detail⟩
  | _ => none

end RemoteError

end RollCall
