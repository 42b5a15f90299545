import RollCall.Json.Print
import RollCall.Message.Identity
import RollCall.Time.Timestamp

set_option autoImplicit false

/-!
Requests and replies. The payload of a request is any JSON value; the body of a reply is a payload,
a refusal with its reason, or nothing.
-/
namespace RollCall

/-- One logical action, sent to one recipient or to many. -/
structure Request where
  requestId : RequestId
  payload : Json

/-- Null and blank text carry nothing worth sending. -/
def Json.isEmptyPayload : Json → Bool
  | .null => true
  | .string s => Text.isBlank s
  | _ => false

def Request.hasEmptyPayload (r : Request) : Bool := r.payload.isEmptyPayload

/-- The body of a reply as the transport hands it over. -/
inductive ReplyBody where
  | payload (v : Json)
  | rejected (reason : String)
  | empty

/-- The body as text whatever its shape: a string as it is, any other payload as JSON. -/
def ReplyBody.render : ReplyBody → String
  | .payload (.string s) => s
  | .payload v => v.render
  | .rejected reason => reason
  | .empty => ""

def ReplyBody.isRejected : ReplyBody → Bool
  | .rejected _ => true
  | _ => false

/-- One message on a channel. It names its sender and those it was forwarded to. -/
structure Reply where
  sender : RecipientId
  body : ReplyBody
  addressedTo : List RecipientId
  receivedAt : Timestamp

end RollCall
