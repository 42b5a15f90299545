import RollCall.Broadcast.FanOut
import RollCall.Broadcast.Outcome

set_option autoImplicit false

/-!
Broadcasts that wait until everybody has reported or the deadline has come, and then say who
answered, who failed and who is missing.
-/
namespace RollCall

namespace BroadcastOutcome

def add (o : BroadcastOutcome) (r : Resolution) : BroadcastOutcome :=
  match r.result with
  | .ok text => { o with succeeded := o.succeeded.insert r.sender text }
  | .error e => { o with failed := o.failed.insert r.sender e }

/-- The outcome of reports together with those who are missing. -/
def ofReports (id : RequestId) (reports : List Resolution) (missing : List RecipientId) :
    BroadcastOutcome :=
  { reports.foldl add (empty id) with missing := RecipientSet.ofRecipients missing }

end BroadcastOutcome

namespace FanOut

/-- Gathers at most so many reports. -/
def gather : Nat → FanOut → World → List Resolution × FanOut × World
  | 0, f, w => ([], f, w)
  | count + 1, f, w =>
    match f.next w with
    | (none, f, w) => ([], f, w)
    | (some r, f, w) =>
      let (rs, f, w) := gather count f w
      (r :: rs, f, w)

end FanOut

namespace Coordinator

/-- Sends a payload to all recipients, each of which is waited for once. -/
def setOut (c : Coordinator) (recipients : List RecipientId) (payload : Json) (deadline : Nat)
    (w : World) : FanOut × World :=
  let (request, w) := w.newRequest payload
  FanOut.start c (distinct recipients) request deadline w

/-- Sends a payload to all recipients and waits for their reports. -/
def broadcast (c : Coordinator) (recipients : List RecipientId) (payload : Json) (deadline : Nat)
    (w : World) : Except Error BroadcastOutcome × World :=
  match broadcastRefusal? recipients payload deadline with
  | some r => (.error (Error.ofRefusal r), w)
  | none =>
    let (f, w) := c.setOut recipients payload deadline w
    let (reports, f, w) := f.gather (f.slots.length + 1) w
    let (f, w) := f.finish w
    (.ok (.ofReports f.requestId reports f.missing), w)

end Coordinator

end RollCall
