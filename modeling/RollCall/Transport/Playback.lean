import RollCall.Error
import RollCall.Transport.Hub

set_option autoImplicit false

/-!
A transport that does what a script says: every exchange, every channel and every message on it
comes from a list, with a delay. What a list has no entry for never happens, and an operation on a
channel that has no delay never ends.
-/
namespace RollCall

/-- How one exchange goes. -/
structure ScriptedAnswer where
  delay : Nat
  result : Except Error ReplyBody

/-- How one wait on a channel goes: it ends with a message, with none, or with an error. -/
structure ScriptedEvent where
  delay : Nat
  result : Except Error (Option Reply)

/-- How the use of one channel goes. -/
structure ScriptedChannel where
  openDelay : Option Nat
  openError : Option Error
  publishDelay : Option Nat
  publishError : Option Error
  events : List ScriptedEvent

/-- The entries that have not been used. -/
structure Playback where
  answers : List ScriptedAnswer
  channels : List ScriptedChannel

/-- An open channel with the events to come. -/
structure PlaybackChannel where
  topic : String
  publishDelay : Option Nat
  publishError : Option Error
  events : List ScriptedEvent

/-- What a wait on a channel came to. -/
inductive Reading where
  | message (r : Reply)
  /-- The channel itself reported that there was none. -/
  | nothing
  | failed (e : Error)
  /-- The wait was cut off at its limit. -/
  | cutOff

def ScriptedEvent.reading (e : ScriptedEvent) : Reading :=
  match e.result with
  | .ok (some r) => .message r
  | .ok none => .nothing
  | .error e => .failed e

namespace Playback

/-- The next channel with the time that opening it takes, if that ends. -/
def openNext (topic : String) (p : Playback) :
    Except Error PlaybackChannel × Option Nat × Playback :=
  match p.channels with
  | [] => (.error (.transport "script exhausted"), some 0, p)
  | c :: rest =>
    let p := { p with channels := rest }
    match c.openError with
    | some e => (.error e, c.openDelay, p)
    | none => (.ok ⟨topic, c.publishDelay, c.publishError, c.events⟩, c.openDelay, p)

end Playback

namespace PlaybackChannel

/-- Waits for the next event; one that comes at the limit still counts, a later one stays. -/
def receive (clock : Clock) (limit : Nat) (c : PlaybackChannel) :
    Reading × PlaybackChannel × Clock :=
  match c.events with
  | [] => (.cutOff, c, clock.waitUntil limit)
  | e :: rest =>
    if clock.now + e.delay ≤ limit then
      (e.reading, { c with events := rest }, clock.wait e.delay)
    else (.cutOff, c, clock.waitUntil limit)

end PlaybackChannel

end RollCall
