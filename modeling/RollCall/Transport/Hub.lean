import RollCall.Clock
import RollCall.Transport.Participant

set_option autoImplicit false

/-!
A channel of an in-process network. Each message that reaches a participant becomes a task, which
gives out the participant's answers as they fall due; an answer is put into the inbox of the channel
and reaches those whom it is forwarded to. When the channel is given back its tasks are ended.

Tasks run in the order of the moments at which they are due. Of those due at one moment the tasks
that waited for it come first, each in the order in which it began to wait, and then the new ones.
-/
namespace RollCall

/-- What somebody says on a channel. -/
structure Message where
  sender : RecipientId
  body : ReplyBody
  addressedTo : List RecipientId

def Message.reply (receivedAt : Timestamp) (m : Message) : Reply :=
  ⟨m.sender, m.body, m.addressedTo, receivedAt⟩

def Reply.message (r : Reply) : Message := ⟨r.sender, r.body, r.addressedTo⟩

@[simp] theorem Reply.sender_message (r : Reply) : r.message.sender = r.sender := rfl

@[simp] theorem Reply.body_message (r : Reply) : r.message.body = r.body := rfl

@[simp] theorem Message.message_reply (receivedAt : Timestamp) (m : Message) :
    (m.reply receivedAt).message = m := rfl

structure Task where
  owner : RecipientId
  requestId : RequestId
  due : Moment
  /-- The millisecond at which the message was received. -/
  received : Nat
  outbounds : List Outbound

/-- A message in the inbox with the moment at which it came. -/
structure Arrival where
  moment : Moment
  message : Message

structure Hub where
  topic : String
  members : List RecipientId
  /-- Tasks that have not run yet. -/
  fresh : List Task
  /-- Tasks that wait for their next answer to fall due. -/
  waiting : List Task
  inbox : List Arrival
  /-- The channel has been given back, so that nothing is given out on it or delivered any more. -/
  closed : Bool

namespace Hub

def opened (topic : String) (members : List RecipientId) : Hub :=
  ⟨topic, members, [], [], [], false⟩

/-- A message for a participant; one that is not registered never sees it. -/
def deliver (registry : Registry) (moment : Moment) (m : Inbound) (target : RecipientId) (h : Hub) :
    Hub :=
  if h.closed then h
  else
    match registry.get? target with
    | none => h
    | some p =>
      { h with fresh := h.fresh ++ [⟨target, m.requestId, moment, moment.ms, p.answers m⟩] }

/-- Hands a request to every member, as often as it is listed. -/
def publish (registry : Registry) (moment : Moment) (request : Request) (h : Hub) : Hub :=
  h.members.foldl
    (fun h r => h.deliver registry moment ⟨request.requestId, none, .payload request.payload⟩ r) h

def emit (registry : Registry) (moment : Moment) (id : RequestId) (owner : RecipientId)
    (o : Outbound) (h : Hub) : Hub :=
  o.forwardTo.foldl (fun h r => h.deliver registry moment ⟨id, some owner, o.body⟩ r)
    { h with inbox := h.inbox ++ [⟨moment, ⟨owner, o.body, o.forwardTo⟩⟩] }

/-- Gives out the answers of a task that are due and lets the others wait. -/
def act (registry : Registry) (moment : Moment) (t : Task) : List Outbound → Hub → Hub
  | [], h => h
  | o :: rest, h =>
    if t.received + o.delay ≤ moment.ms then
      if h.closed then h
      else act registry moment t rest (h.emit registry moment t.requestId t.owner o)
    else
      { h with waiting := h.waiting ++
          [{ t with due := Moment.start (t.received + o.delay), outbounds := o :: rest }] }

/-- The task that is due first, of several the first, with the other tasks. -/
def earliest? : List Task → Option (Task × List Task)
  | [] => none
  | t :: rest =>
    match earliest? rest with
    | none => some (t, rest)
    | some (u, others) => if u.due.before t.due then some (u, t :: others) else some (t, rest)

/-- The task that runs next, with the channel without it. -/
def next? (h : Hub) : Option (Task × Hub) :=
  match earliest? h.waiting, earliest? h.fresh with
  | some (w, waiting), some (f, fresh) =>
    if f.due.before w.due then some (f, { h with fresh := fresh })
    else some (w, { h with waiting := waiting })
  | some (w, waiting), none => some (w, { h with waiting := waiting })
  | none, some (f, fresh) => some (f, { h with fresh := fresh })
  | none, none => none

/-- Runs the next task if it is due before a moment. -/
def step? (registry : Registry) (bound : Moment) (h : Hub) : Option Hub :=
  match h.next? with
  | some (t, h) => if t.due.before bound then some (act registry t.due t t.outbounds h) else none
  | none => none

/-- Runs at most so many tasks that are due before a moment. -/
def run (registry : Registry) (bound : Moment) : Nat → Hub → Hub
  | 0, h => h
  | fuel + 1, h =>
    match h.step? registry bound with
    | some h => run registry bound fuel h
    | none => h

/-- Runs tasks until there is a message, at most so many. -/
def runToMessage (registry : Registry) (bound : Moment) : Nat → Hub → Hub
  | 0, h => h
  | fuel + 1, h =>
    if h.inbox.isEmpty then
      match h.step? registry bound with
      | some h => runToMessage registry bound fuel h
      | none => h
    else h

/-- Marks a channel that is given back, ends its tasks and loses what nobody has read. -/
def close (h : Hub) : Hub := { h with fresh := [], waiting := [], inbox := [], closed := true }

/--
The next message that comes before an instant, unless one has come; a run without a message leaves
one new task less, so it is long enough to run as many as there are and one more.
-/
def receive (registry : Registry) (clock : Clock) (limit : Nat) (h : Hub) :
    Option Arrival × Hub × Clock :=
  let bound := clock.moment.latest (Moment.start limit)
  let h := runToMessage registry bound (h.fresh.length + 1) h
  match h.inbox with
  | a :: rest => (some a, { h with inbox := rest }, clock.waitFor a.moment)
  | [] => (none, h, clock.waitUntil limit)

end Hub

end RollCall
