import RollCall.Message.Classify
import RollCall.Wire.Message

set_option autoImplicit false

/-!
What a relay came to: the messages seen on its channel, and the first that held the marker.
-/
namespace RollCall

structure RelayResult where
  requestId : RequestId
  /-- The text of the first message that held the marker. -/
  terminalPayload : Option String
  /-- Every message seen, in the order of arrival. -/
  observedHops : List Reply
  /-- Whether time ran out, or the channel failed, before the marker was seen. -/
  timedOut : Bool
  elapsed : Span
  /-- What went wrong on the channel. -/
  notes : List String

namespace RelayResult

def hopSenders (r : RelayResult) : List RecipientId := r.observedHops.map Reply.sender

def isCompleted (r : RelayResult) : Bool := !r.timedOut && r.terminalPayload.isSome

def toJson (r : RelayResult) : Json :=
  .object
    [("elapsed", r.elapsed.toJson),
      ("notes", .array (r.notes.map Json.string)),
      ("observed_hops", .array (r.observedHops.map Reply.toJson)),
      ("request_id", r.requestId.toJson),
      ("terminal_payload", Wire.orNull Json.string r.terminalPayload),
      ("timed_out", .bool r.timedOut)]

def ofJson? (v : Json) : Option RelayResult :=
  match Wire.slots?
      ["request_id", "terminal_payload", "observed_hops", "timed_out", "elapsed", "notes"] v with
  | some [id, terminal, hops, timedOut, elapsed, notes] => do
    let id ← Wire.required RequestId.ofJson? id
    let terminal ← Wire.optional Wire.string? terminal
    let hops ← Wire.required (Wire.list? Reply.ofJson?) hops
    let timedOut ← Wire.required Wire.bool? timedOut
    let elapsed ← Wire.required Span.ofJson? elapsed
    let notes ← Wire.defaulted [] (Wire.list? Wire.string?) notes
    return ⟨id, terminal, hops, timedOut, elapsed, notes⟩
  | _ => none

end RelayResult

end RollCall
