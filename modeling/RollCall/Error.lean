set_option autoImplicit false

/-!
What can go wrong. A `RemoteError` is the known failure of one recipient and is part of an answer;
an `Error` ends a call; a `Refusal` is a mistake of the caller, found before anything is sent.
-/
namespace RollCall

/-- The category of a recipient's failure. -/
inductive RemoteErrorKind where
  /-- The reply was understood but carried no text. -/
  | emptyReply
  /-- The reply had a shape that is not understood. -/
  | malformedReply
  /-- The recipient refused or failed the request. -/
  | remoteRejected
  /-- The request did not reach the recipient, or the reply did not come back. -/
  | transportFailure
deriving DecidableEq, Repr

def RemoteErrorKind.label : RemoteErrorKind → String
  | .emptyReply => "empty reply"
  | .malformedReply => "malformed reply"
  | .remoteRejected => "rejected"
  | .transportFailure => "transport failure"

/-- The known failure of one recipient. -/
structure RemoteError where
  kind : RemoteErrorKind
  detail : String
deriving DecidableEq, Repr

def RemoteError.message (e : RemoteError) : String :=
  e.kind.label ++ ": " ++ e.detail

inductive Refusal where
  | noRecipients
  | blankRecipient (position : Nat)
  | noSeeds
  | blankSeed
  | missingRecipient
  | zeroDeadline
  | emptyMarker
  | emptyPayload
deriving DecidableEq, Repr

def Refusal.message : Refusal → String
  | .noRecipients => "recipient set must not be empty"
  | .blankRecipient position => "recipient #" ++ toString position ++ " is blank"
  | .noSeeds => "seed recipients must not be empty"
  | .blankSeed => "seed recipients must not be blank"
  | .missingRecipient => "recipient must not be empty"
  | .zeroDeadline => "deadline must be positive"
  | .emptyMarker => "terminal marker must not be empty"
  | .emptyPayload => "payload must not be empty"

/-- Why a call ended without an answer. -/
inductive Error where
  | invalidInput (what : String)
  | remote (e : RemoteError)
  | timeout (what : String)
  | transport (what : String)
  | storage (what : String)
  | config (what : String)
  | serialization (what : String)
  | yaml (what : String)
  | io (what : String)
deriving DecidableEq, Repr

namespace Error

def ofRefusal (r : Refusal) : Error := .invalidInput r.message

/-- The whole text of an error, its kind in front. -/
def message : Error → String
  | .invalidInput what => "Invalid input: " ++ what
  | .remote e => "Remote error: " ++ e.message
  | .timeout what => "Operation timed out: " ++ what
  | .transport what => "Transport error: " ++ what
  | .storage what => "Storage error: " ++ what
  | .config what => "Configuration error: " ++ what
  | .serialization what => "Serialization error: " ++ what
  | .yaml what => "YAML error: " ++ what
  | .io what => "IO error: " ++ what

/-- Whether the error was raised before anything was sent. -/
def isCallerMistake : Error → Bool
  | .invalidInput _ => true
  | _ => false

end Error

end RollCall
