import RollCall.Office

set_option autoImplicit false

/-!
A session: an office with its world and with the streams and channels that are held under names.
Whoever joins or leaves the network finds everything done that was due before.
-/
namespace RollCall

structure Session where
  office : Office
  world : World
  streams : List (String × BroadcastStream)
  channels : List (String × Channel)

def Channel.settle (registry : Registry) (moment : Moment) (patience : Nat) : Channel → Channel
  | .hub h => .hub (h.run registry moment patience)
  | .playback c => .playback c

def BroadcastStream.settle (registry : Registry) (moment : Moment) (patience : Nat)
    (s : BroadcastStream) : BroadcastStream :=
  match s.stage with
  | .running f =>
    let channel := f.channel.map (·.settle registry moment patience)
    { s with stage := .running { f with channel } }
  | _ => s

namespace Session

def opened (o : Office) (w : World) : Session := ⟨o, w, [], []⟩

/-- The entries without those under a name. -/
def without {α : Type} (name : String) (held : List (String × α)) : List (String × α) :=
  held.filter fun e => !(e.1 == name)

/-- Runs what is due on all channels, on those that were given back as well. -/
def settle (s : Session) : Session :=
  let registry := s.world.transport.registry
  let moment := s.world.clock.moment
  { s with
    world := { s.world with transport := s.world.transport.settle moment s.world.patience }
    streams := s.streams.map fun e => (e.1, e.2.settle registry moment s.world.patience)
    channels := s.channels.map fun e => (e.1, e.2.settle registry moment s.world.patience) }

def changeNetwork (change : Network → Network) (s : Session) : Session :=
  match s.world.transport with
  | .network n => { s with world := { s.world with transport := .network (change n) } }
  | .playback _ => s

def register (r : RecipientId) (p : Participant) (s : Session) : Session :=
  s.settle.changeNetwork fun n => { n with registry := n.registry.insert r p }

def isRegistered (r : RecipientId) (s : Session) : Bool :=
  (s.world.transport.registry.get? r).isSome

def unregister (r : RecipientId) (s : Session) : Session :=
  s.settle.changeNetwork fun n => { n with registry := n.registry.erase r }

def setOffline (offline : Bool) (s : Session) : Session :=
  s.changeNetwork fun n => { n with offline := offline }

def sleep (ms : Nat) (s : Session) : Session := { s with world := s.world.wait ms }

def stream? (name : String) (s : Session) : Option BroadcastStream := List.lookup name s.streams

def dropStream (name : String) (s : Session) : Session :=
  let world := match s.stream? name with
    | some stream => stream.abandon s.world
    | none => s.world
  { s with world := world, streams := without name s.streams }

/-- Holds a new stream under a name; one held there before is given up. -/
def openStream (name : String) (recipients : List RecipientId) (payload : Json) (deadline : Nat)
    (s : Session) : Except Error BroadcastStream × Session :=
  match s.office.coordinator.stream recipients payload deadline s.world with
  | (.error e, w) => (.error e, { s with world := w })
  | (.ok stream, w) =>
    let s := dropStream name { s with world := w }
    (.ok stream, { s with streams := (name, stream) :: s.streams })

/-- The next event of the stream under a name. -/
def nextEvent (name : String) (s : Session) : Option BroadcastEvent × Session :=
  match s.stream? name with
  | none => (none, s)
  | some stream =>
    let (event, stream, w) := stream.next s.world
    (event, { s with world := w, streams := (name, stream) :: without name s.streams })

def channel? (name : String) (s : Session) : Option Channel := List.lookup name s.channels

def dropChannel (name : String) (s : Session) : Session :=
  let world := match s.channel? name with
    | some c => s.world.release c
    | none => s.world
  { s with world := world, channels := without name s.channels }

/-- Holds a new channel under a name; one held there before is released. -/
def openChannel (name topic : String) (recipients : List RecipientId) (s : Session) :
    Except Error String × Session :=
  match s.world.openChannel topic recipients with
  | (.error e, w) => (.error e, { s with world := w })
  | (.ok c, w) =>
    let s := dropChannel name { s with world := w }
    (.ok c.topic, { s with channels := (name, c) :: s.channels })

def publishOn (name : String) (payload : Json) (s : Session) : Except Error Unit × Session :=
  match s.channel? name with
  | none => (.ok (), s)
  | some c =>
    let (request, w) := s.world.newRequest payload
    match w.publish request c with
    | (.error e, w) => (.error e, { s with world := w })
    | (.ok c, w) =>
      (.ok (), { s with world := w, channels := (name, c) :: without name s.channels })

/-- Waits for a message on the channel under a name, so many milliseconds at most. -/
def receiveFrom (name : String) (budget : Nat) (s : Session) : Reading × Session :=
  match s.channel? name with
  | none => (.nothing, s)
  | some c =>
    let (reading, c, w) := s.world.receive c (s.world.now + budget)
    (reading, { s with world := w, channels := (name, c) :: without name s.channels })

/-- Sends a payload to one recipient, unrecorded, and waits so many milliseconds at most. -/
def sendTo (recipient : RecipientId) (payload : Json) (budget : Nat) (s : Session) :
    Option (Except Error ReplyBody) × Session :=
  let (request, w) := s.world.newRequest payload
  let (answer, w) := w.send recipient request (w.now + budget)
  (answer, { s with world := w })

end Session

end RollCall
