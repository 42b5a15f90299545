import RollCall.Broadcast.Event
import RollCall.Broadcast.FanOut

set_option autoImplicit false

/-!
Broadcasts that report each answer as it arrives. Nothing is sent before the first event is asked
for, and time counts from there; the last event names those who are missing, if there are any.
-/
namespace RollCall

/-- How far a stream has come. -/
inductive StreamStage where
  /-- Nothing has been asked for yet. -/
  | idle (coordinator : Coordinator) (recipients : List RecipientId) (request : Request)
      (deadline : Nat)
  | running (f : FanOut)
  | ended

structure BroadcastStream where
  requestId : RequestId
  stage : StreamStage

def BroadcastEvent.ofResolution (r : Resolution) : BroadcastEvent :=
  match r.result with
  | .ok text => .delivered r.sender text
  | .error e => .failed r.sender e

namespace FanOut

/-- The next event; after the last report the fan-out is finished. -/
def nextEvent (f : FanOut) (w : World) : Option BroadcastEvent × StreamStage × World :=
  match f.next w with
  | (some r, f, w) => (some (BroadcastEvent.ofResolution r), .running f, w)
  | (none, f, w) =>
    let (f, w) := f.finish w
    if f.missing.isEmpty then (none, .ended, w)
    else (some (.missingSummary f.missing f.notes), .ended, w)

end FanOut

namespace BroadcastStream

/-- The next event, or none once the stream has ended. -/
def next (s : BroadcastStream) (w : World) : Option BroadcastEvent × BroadcastStream × World :=
  match s.stage with
  | .idle c recipients request deadline =>
    let (f, w) := FanOut.start c recipients request deadline w
    let (event, stage, w) := f.nextEvent w
    (event, { s with stage := stage }, w)
  | .running f =>
    let (event, stage, w) := f.nextEvent w
    (event, { s with stage := stage }, w)
  | .ended => (none, s, w)

/-- How many events may still come: one for each recipient and the summary. -/
def mostEvents (s : BroadcastStream) : Nat :=
  match s.stage with
  | .idle _ recipients _ _ => recipients.length + 1
  | .running f => f.slots.length + 1
  | .ended => 0

/-- The next events, at most so many. -/
def take : Nat → BroadcastStream → World → List BroadcastEvent × BroadcastStream × World
  | 0, s, w => ([], s, w)
  | count + 1, s, w =>
    match s.next w with
    | (none, s, w) => ([], s, w)
    | (some e, s, w) =>
      let (es, s, w) := take count s w
      (e :: es, s, w)

/-- All events to the end of the stream. -/
def toList (s : BroadcastStream) (w : World) : List BroadcastEvent × BroadcastStream × World :=
  s.take (s.mostEvents + 1) w

/-- Gives the stream up: its channel is released, and steps that are open stay open. -/
def abandon (s : BroadcastStream) (w : World) : World :=
  match s.stage with
  | .running f => (f.releaseChannel w).2
  | _ => w

/-- What a stream is called in descriptions. -/
def description (s : BroadcastStream) : String :=
  Text.described "BroadcastStream"
    [("request_id", "RequestId(" ++ Text.quoted s.requestId.text ++ ")")]

end BroadcastStream

namespace Coordinator

/-- A stream of the reports of all recipients. Only the arguments are looked at now. -/
def stream (c : Coordinator) (recipients : List RecipientId) (payload : Json) (deadline : Nat)
    (w : World) : Except Error BroadcastStream × World :=
  match broadcastRefusal? recipients payload deadline with
  | some r => (.error (Error.ofRefusal r), w)
  | none =>
    let (request, w) := w.newRequest payload
    (.ok ⟨request.requestId, .idle c (distinct recipients) request deadline⟩, w)

end Coordinator

end RollCall
