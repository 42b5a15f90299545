import RollCall.Coordinator
import RollCall.Message.Classify

set_option autoImplicit false

/-!
Unicast exchanges: one request to one recipient, with a step for the coordinator's side and one for
the recipient's. Both are opened by one write and closed by another.
-/
namespace RollCall.Coordinator

def dispatchRefusal? (recipient : RecipientId) (request : Request) : Option Refusal :=
  if recipient.isBlank then some .missingRecipient
  else if request.hasEmptyPayload then some .emptyPayload
  else none

/-- What an answer is to the caller; the time allowed is named if there was none. -/
def exchangeResult (recipient : RecipientId) (timeout : Span) :
    Option (Except Error ReplyBody) → Except Error String
  | some (.ok body) => body.classify.mapError Error.remote
  | some (.error e) => .error (.remote ⟨.transportFailure, e.message⟩)
  | none => .error (.timeout ("no reply from " ++ recipient.text ++ " within " ++ timeout.text))

/-- Sends a request and waits for the answer, at most for the timeout. -/
def dispatch (c : Coordinator) (timeout : Span) (recipient : RecipientId) (request : Request)
    (w : World) : Except Error String × World :=
  match dispatchRefusal? recipient request with
  | some r => (.error (Error.ofRefusal r), w)
  | none =>
    let (steps, w) := c.startSteps request.requestId [c.exchangeLabel, recipient.text] w
    let (answer, w) := w.send recipient request (w.now + timeout.millis)
    let result := exchangeResult recipient timeout answer
    let closes := steps.reverse.map fun s => (s, result.isOk)
    (result, c.endSteps request.requestId closes w)

end RollCall.Coordinator
