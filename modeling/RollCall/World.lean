import RollCall.Trace.Recorder
import RollCall.Transport.Basic

set_option autoImplicit false

/-!
What calls act on: the journal with its clock, the transport with the log of its use, and the number
of requests made so far. Each function is one step that a call takes.
-/
namespace RollCall

structure World where
  journal : Journal
  transport : Transport
  /-- The uses of the transport, the last one first. -/
  calls : List Call
  /-- How many requests have been given an identifier. -/
  requestCount : Nat
  /-- How many messages of a network in a row a call may ignore before it stops reading. -/
  patience : Nat
  /-- The caller waits for what never comes; what is computed from then on never happens. -/
  stuck : Bool

/-- The first of the identifiers for requests that are given none. -/
def RequestId.firstGenerated : Nat := 0x8d2f6a04c3b94e71a5d8170000000000

/-- The identifier of the `n`-th request that is given none. -/
@[irreducible] def RequestId.generated (n : Nat) : RequestId :=
  ⟨(StepId.mk (BitVec.ofNat 128 (firstGenerated + n))).text⟩

namespace World

def clock (w : World) : Clock := w.journal.clock

/-- Milliseconds since the run began. -/
def now (w : World) : Nat := w.clock.now

def withClock (w : World) (c : Clock) : World :=
  { w with journal := { w.journal with clock := c } }

def log (w : World) (c : Call) : World := { w with calls := c :: w.calls }

def wait (w : World) (ms : Nat) : World := w.withClock (w.clock.wait ms)

/-- Waits for what takes so long, or never ends. -/
def await (delay : Option Nat) (w : World) : World :=
  match delay with
  | some ms => w.wait ms
  | none => { w with stuck := true }

@[simp] theorem transport_await (delay : Option Nat) (w : World) :
    (w.await delay).transport = w.transport := by cases delay <;> rfl

@[simp] theorem calls_await (delay : Option Nat) (w : World) :
    (w.await delay).calls = w.calls := by cases delay <;> rfl

@[simp] theorem requestCount_await (delay : Option Nat) (w : World) :
    (w.await delay).requestCount = w.requestCount := by cases delay <;> rfl

@[simp] theorem patience_await (delay : Option Nat) (w : World) :
    (w.await delay).patience = w.patience := by cases delay <;> rfl

def newRequest (payload : Json) (w : World) : Request × World :=
  (⟨RequestId.generated w.requestCount, payload⟩, { w with requestCount := w.requestCount + 1 })

/-- What the recorder does, done in this world. -/
def record {α : Type} (act : Journal → α × Journal) (w : World) : α × World :=
  let (a, j) := act w.journal
  (a, { w with journal := j })

/-- What the recorder does without an answer. -/
def recording (act : Journal → Journal) (w : World) : World := { w with journal := act w.journal }

/-- Sends a request to one recipient and waits for the answer, at most until an instant. -/
def send (recipient : RecipientId) (request : Request) (limit : Nat) (w : World) :
    Option (Except Error ReplyBody) × World :=
  let (answer, t) := w.transport.answer? recipient request
  let w := { w.log (.send recipient request.payload) with transport := t }
  match answer with
  | some (ms, result) =>
    if w.now + ms ≤ limit then (some result, w.wait ms)
    else (none, w.withClock (w.clock.waitUntil limit))
  | none => (none, w.withClock (w.clock.waitUntil limit))

def openChannel (topic : String) (recipients : List RecipientId) (w : World) :
    Except Error Channel × World :=
  let (c, delay, t) := w.transport.openChannel topic recipients
  (c, { w.log (.open topic recipients) with transport := t }.await delay)

def publish (request : Request) (c : Channel) (w : World) : Except Error Channel × World :=
  (w.transport.publish w.clock.moment request c,
    (w.log (.publish request.payload)).await c.publishDelay)

/-- Waits for a message, at most until an instant. -/
def receive (c : Channel) (limit : Nat) (w : World) : Reading × Channel × World :=
  let (r, c, clock) := w.transport.receive w.clock limit c
  (r, c, (w.log (.read r)).withClock clock)

def release (c : Channel) (w : World) : World :=
  { w.log (.release c.unread) with transport := w.transport.release c }

/-- What the wall clock shows, which takes a reading. -/
def wallClock (w : World) : Timestamp × World := (w.clock.reading, w.withClock w.clock.tick)

/-- Why a request could not be put on a channel. -/
inductive ConnectFault where
  | notOpened (e : Error)
  | notPublished (e : Error)

/-- Opens a channel and publishes a request on it; a channel without its request is released. -/
def connect (topic : String) (recipients : List RecipientId) (request : Request) (w : World) :
    Except ConnectFault Channel × World :=
  match w.openChannel topic recipients with
  | (.error e, w) => (.error (.notOpened e), w)
  | (.ok c, w) =>
    match w.publish request c with
    | (.error e, w) => (.error (.notPublished e), w.release c)
    | (.ok c, w) => (.ok c, w)

end World

end RollCall
