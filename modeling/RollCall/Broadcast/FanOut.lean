import RollCall.Coordinator
import RollCall.Message.Classify

set_option autoImplicit false

/-!
A fan-out: one request to several recipients and a bounded wait for their reports. The first report
of a recipient counts; later ones, and messages of others, are ignored. If the request could not be
put on a channel, every recipient reports that failure.
-/
namespace RollCall

/-- What the caller of a broadcast got wrong, if anything. -/
def broadcastRefusal? (recipients : List RecipientId) (payload : Json) (deadline : Nat) :
    Option Refusal :=
  if recipients.isEmpty then some .noRecipients
  else
    match recipients.findIdx? RecipientId.isBlank with
    | some position => some (.blankRecipient position)
    | none =>
      if deadline = 0 then some .zeroDeadline
      else if payload.isEmptyPayload then some .emptyPayload
      else none

/-- Every recipient once, in the order in which they are first listed. -/
def distinct : List RecipientId → List RecipientId
  | [] => []
  | r :: rest => r :: (distinct rest).filter fun s => !(s == r)

/-- A recipient with its step and, once it has reported, what it reported. -/
structure Slot where
  recipient : RecipientId
  step : Option StepId
  report : Option (Except RemoteError String)

structure Resolution where
  sender : RecipientId
  result : Except RemoteError String

/-- A fan-out that is under way. -/
structure FanOut where
  coordinator : Coordinator
  requestId : RequestId
  coordinatorStep : Option StepId
  slots : List Slot
  /-- The channel, until it is released. -/
  channel : Option Channel
  /-- Why the request never was on a channel. -/
  setupFailure : Option String
  /-- The instant at which waiting ends. -/
  deadline : Nat
  /-- What went wrong on the channel. -/
  notes : List String

/-- The text of a fault when a broadcast sets out. -/
def World.ConnectFault.broadcastText (topic : String) : World.ConnectFault → String
  | .notOpened e => "could not open channel " ++ topic ++ ": " ++ e.message
  | .notPublished e => "publish on " ++ topic ++ " failed: " ++ e.message

namespace FanOut

/--
Puts the request on a channel and then opens all steps with one write; time counts from here. Meant
are waits that end on the platform's clock, which goes to the second `MemoryStore.lastSecond`; every
number of milliseconds below `2 ^ 64` is one. A longer wait breaks the program off where the
deadline is computed.
-/
def start (c : Coordinator) (recipients : List RecipientId) (request : Request) (wait : Nat)
    (w : World) : FanOut × World :=
  let deadline := w.now + wait
  let topic := c.topic "broadcast" request.requestId
  let (connected, w) := w.connect topic recipients request
  let (steps, w) := c.startSteps request.requestId (c.label :: recipients.map RecipientId.text) w
  let failure := match connected with
    | .ok _ => none
    | .error f => some (f.broadcastText topic)
  ({ coordinator := c
     requestId := request.requestId
     coordinatorStep := steps.head?.join
     slots := (recipients.zip steps.tail).map fun p => ⟨p.1, p.2, none⟩
     channel := connected.toOption
     setupFailure := failure
     deadline := deadline
     notes := failure.toList }, w)

/-- The first recipient that has not reported. -/
def firstPending? (f : FanOut) : Option RecipientId :=
  (f.slots.find? fun s => s.report.isNone).map Slot.recipient

def missing (f : FanOut) : List RecipientId :=
  (f.slots.filter fun s => s.report.isNone).map Slot.recipient

def anyFailed (f : FanOut) : Bool :=
  f.slots.any fun s => s.report.any fun r => !r.isOk

/-- The step of a recipient that is still owed a report, unless it could not be opened. -/
def pendingStep? (f : FanOut) (r : RecipientId) : Option (Option StepId) :=
  (f.slots.find? fun s => s.recipient == r && s.report.isNone).map Slot.step

/-- Notes a report. -/
def fill (r : RecipientId) (result : Except RemoteError String) (slots : List Slot) : List Slot :=
  slots.map fun s => if s.recipient = r then { s with report := some result } else s

def resolve (f : FanOut) (r : RecipientId) (step : Option StepId)
    (result : Except RemoteError String) (w : World) : Resolution × FanOut × World :=
  (⟨r, result⟩, { f with slots := fill r result f.slots },
    f.coordinator.endStep f.requestId step result.isOk w)

def releaseChannel (f : FanOut) (w : World) : FanOut × World :=
  match f.channel with
  | some c => ({ f with channel := none }, w.release c)
  | none => (f, w)

/-- What one look at the channel comes to. -/
inductive Progress where
  | reported (r : Resolution)
  /-- Nothing that counts. -/
  | ignored
  | ended

/-- Takes what was read from the channel: the first message of a recipient is its report. -/
def heed (f : FanOut) (reading : Reading) (w : World) : Progress × FanOut × World :=
  match reading with
  | .cutOff => (.ended, f, w)
  | .nothing => (.ignored, f, w)
  | .failed e =>
    let f := { f with notes := f.notes ++ ["channel read failed: " ++ e.message] }
    let (f, w) := f.releaseChannel w
    (.ended, f, w)
  | .message m =>
    match f.pendingStep? m.sender with
    | none => (.ignored, f, w)
    | some step =>
      let (r, f, w) := f.resolve m.sender step m.body.classify w
      (.reported r, f, w)

/-- Reads once, unless everybody has reported, the deadline has come or there is no channel. -/
def readOnce (f : FanOut) (w : World) : Progress × FanOut × World :=
  if f.missing.isEmpty || f.deadline ≤ w.now then (.ended, f, w)
  else
    match f.channel with
    | none => (.ended, f, w)
    | some c =>
      let (reading, c, w) := w.receive c f.deadline
      heed { f with channel := some c } reading w

/-- Reads until a recipient reports, at most so many times. -/
def readOn : Nat → FanOut → World → Option Resolution × FanOut × World
  | 0, f, w => (none, f, w)
  | allowance + 1, f, w =>
    match f.readOnce w with
    | (.reported r, f, w) => (some r, f, w)
    | (.ignored, f, w) => readOn allowance f w
    | (.ended, f, w) => (none, f, w)

/-- How often the channel is read at most for one report. -/
def allowance (f : FanOut) (w : World) : Nat :=
  (f.channel.map (Channel.allowance w.patience)).getD 0

/-- The next report, if there is one before the deadline and before the channel fails. -/
def next (f : FanOut) (w : World) : Option Resolution × FanOut × World :=
  match f.setupFailure with
  | some failure =>
    match f.firstPending? with
    | some r =>
      let step := (f.pendingStep? r).join
      let (r, f, w) := f.resolve r step (.error ⟨.transportFailure, failure⟩) w
      (some r, f, w)
    | none => (none, f, w)
  | none => readOn (f.allowance w) f w

/-- Releases the channel and closes the coordinator's step; the steps of the missing stay open. -/
def finish (f : FanOut) (w : World) : FanOut × World :=
  let (f, w) := f.releaseChannel w
  (f, f.coordinator.endStep f.requestId f.coordinatorStep (f.missing.isEmpty && !f.anyFailed) w)

end FanOut

end RollCall
