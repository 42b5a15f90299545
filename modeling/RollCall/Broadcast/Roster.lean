import RollCall.Broadcast.FanOut

set_option autoImplicit false

/-!
A fan-out that keeps four accounts of its recipients: the list of them, the steps opened for them,
those who have reported and whether one of them failed. Each is changed by itself, and the wait ends
once as many have reported as are listed.
-/
namespace RollCall

structure Roster where
  coordinator : Coordinator
  requestId : RequestId
  recipients : List RecipientId
  coordinatorStep : Option StepId
  recipientSteps : RecipientMap (Option StepId)
  resolved : RecipientSet
  channel : Option Channel
  setupFailure : Option String
  deadline : Nat
  anyFailed : Bool
  notes : List String

namespace Roster

/--
Puts the request on a channel and then opens all steps with one write; time counts from here. Meant
are waits that end on the platform's clock, which goes to the second `MemoryStore.lastSecond`; every
number of milliseconds below `2 ^ 64` is one. A longer wait breaks the program off where the
deadline is computed.
-/
def start (c : Coordinator) (recipients : List RecipientId) (request : Request) (wait : Nat)
    (w : World) : Roster × World :=
  let deadline := w.now + wait
  let topic := c.topic "broadcast" request.requestId
  let (connected, w) := w.connect topic recipients request
  let failure := match connected with
    | .ok _ => none
    | .error f => some (f.broadcastText topic)
  let (steps, w) := c.startSteps request.requestId (c.label :: recipients.map RecipientId.text) w
  ({ coordinator := c
     requestId := request.requestId
     recipients := recipients
     coordinatorStep := steps.head?.join
     recipientSteps := .ofList (recipients.zip steps.tail)
     resolved := .empty
     channel := connected.toOption
     setupFailure := failure
     deadline := deadline
     anyFailed := false
     notes := failure.toList }, w)

def firstUnresolved? (p : Roster) : Option RecipientId :=
  p.recipients.find? fun r => !p.resolved.contains r

def unresolved (p : Roster) : List RecipientId :=
  p.recipients.filter fun r => !p.resolved.contains r

/-- Notes a report and closes the step of its sender, if one is known. -/
def resolve (p : Roster) (sender : RecipientId) (result : Except RemoteError String) (w : World) :
    Resolution × Roster × World :=
  let p := { p with
    anyFailed := p.anyFailed || !result.isOk
    resolved := p.resolved.insert sender () }
  let step := (p.recipientSteps.get? sender).join
  (⟨sender, result⟩, p, p.coordinator.endStep p.requestId step result.isOk w)

/-- Takes what was read from the channel; strangers and repeats do not count. -/
def heed (p : Roster) (reading : Reading) (w : World) : FanOut.Progress × Roster × World :=
  match reading with
  | .cutOff => (.ended, p, w)
  | .nothing => (.ignored, p, w)
  | .failed e =>
    let w := match p.channel with
      | some c => w.release c
      | none => w
    (.ended,
      { p with notes := p.notes ++ ["channel read failed: " ++ e.message], channel := none }, w)
  | .message m =>
    if !p.recipientSteps.contains m.sender then (.ignored, p, w)
    else if p.resolved.contains m.sender then (.ignored, p, w)
    else
      let (r, p, w) := p.resolve m.sender m.body.classify w
      (.reported r, p, w)

/-- Reads once, unless enough have reported, the deadline has come or there is no channel. -/
def readOnce (p : Roster) (w : World) : FanOut.Progress × Roster × World :=
  if p.resolved.size = p.recipients.length then (.ended, p, w)
  else if p.deadline ≤ w.now then (.ended, p, w)
  else
    match p.channel with
    | none => (.ended, p, w)
    | some c =>
      let (reading, c, w) := w.receive c p.deadline
      heed { p with channel := some c } reading w

/-- Reads until a recipient reports, at most so many times. -/
def readOn : Nat → Roster → World → Option Resolution × Roster × World
  | 0, p, w => (none, p, w)
  | allowance + 1, p, w =>
    match p.readOnce w with
    | (.reported r, p, w) => (some r, p, w)
    | (.ignored, p, w) => readOn allowance p w
    | (.ended, p, w) => (none, p, w)

def allowance (p : Roster) (w : World) : Nat :=
  (p.channel.map (Channel.allowance w.patience)).getD 0

/-- The next report, if there is one before the deadline and before the channel fails. -/
def next (p : Roster) (w : World) : Option Resolution × Roster × World :=
  match p.setupFailure with
  | some failure =>
    match p.firstUnresolved? with
    | some r =>
      let (r, p, w) := p.resolve r (.error ⟨.transportFailure, failure⟩) w
      (some r, p, w)
    | none => (none, p, w)
  | none => readOn (p.allowance w) p w

/-- Releases the channel and closes the coordinator's step; also says who never reported. -/
def finish (p : Roster) (w : World) : List RecipientId × Roster × World :=
  let w := match p.channel with
    | some c => w.release c
    | none => w
  let p := { p with channel := none }
  let missing := p.unresolved
  (missing, p,
    p.coordinator.endStep p.requestId p.coordinatorStep (missing.isEmpty && !p.anyFailed) w)

end Roster

end RollCall
