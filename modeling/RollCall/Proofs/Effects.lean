import RollCall.Proofs.Custody
import RollCall.Proofs.Earshot

set_option autoImplicit false

/-!
What the acts of a session come to. An act lets the world go on and puts something, or nothing, in
the place of what is held under one name; or somebody joins or leaves the network. All else that is
held stays as it is, so that what an act keeps can be read off what it comes to.
-/
namespace RollCall

namespace World

/-- Identifiers are not taken back, and channels are closed when they are given back. -/
structure Later (w w' : World) : Prop where
  requestCount : w.requestCount ≤ w'.requestCount
  returned : w.transport.Returns w'.transport

variable {w w' w'' : World}

theorem Later.refl (w : World) : w.Later w := ⟨Nat.le_refl _, .refl _⟩

theorem Later.trans (first : w.Later w') (second : w'.Later w'') : w.Later w'' :=
  ⟨Nat.le_trans first.requestCount second.requestCount, first.returned.trans second.returned⟩

theorem later_newRequest (payload : Json) (w : World) : w.Later (w.newRequest payload).2 :=
  ⟨Nat.le_succ _, .refl _⟩

theorem later_openChannel (topic : String) (recipients : List RecipientId) (w : World) :
    w.Later (w.openChannel topic recipients).2 :=
  ⟨Nat.le_of_eq (w.requestCount_openChannel topic recipients).symm, (uses_openChannel rfl).1.returned⟩

theorem later_publish (request : Request) (c : Channel) (w : World) :
    w.Later (w.publish request c).2 :=
  ⟨Nat.le_of_eq (w.requestCount_publish request c).symm, (uses_publish true rfl).1.returned⟩

theorem later_receive (c : Channel) (limit : Nat) (w : World) : w.Later (w.receive c limit).2.2 :=
  ⟨Nat.le_refl _, (uses_receive true rfl).returned⟩

theorem later_release (c : Channel) (w : World) : w.Later (w.release c) :=
  ⟨Nat.le_refl _, .release c _⟩

theorem later_send (recipient : RecipientId) (request : Request) (limit : Nat) (w : World) :
    w.Later (w.send recipient request limit).2 := by
  refine ⟨Nat.le_of_eq (requestCount_send recipient request limit w).symm, ?_⟩
  have answered : w.transport.Returns (w.transport.answer? recipient request).2 := by
    cases w.transport with
    | network n => exact .refl _
    | playback p =>
      obtain ⟨answers, channels⟩ := p
      cases answers <;> exact ⟨[], rfl⟩
  simp only [send]
  split
  · split <;> exact answered
  · exact answered

end World

namespace Coordinator

variable (c : Coordinator) (w : World)

theorem later_dispatch (timeout : Span) (recipient : RecipientId) (request : Request) :
    w.Later (c.dispatch timeout recipient request w).2 := by
  cases refused : dispatchRefusal? recipient request with
  | some refusal =>
    rw [dispatch_of_refused c timeout w refused]
    exact .refl w
  | none =>
    simp only [dispatch, refused]
    have sent := World.later_send recipient request
      ((c.startSteps request.requestId [c.exchangeLabel, recipient.text] w).2.now + timeout.millis)
      (c.startSteps request.requestId [c.exchangeLabel, recipient.text] w).2
    exact ⟨sent.requestCount, sent.returned⟩

theorem later_broadcast (recipients : List RecipientId) (payload : Json) (deadline : Nat) :
    w.Later (c.broadcast recipients payload deadline w).2 := by
  cases refused : broadcastRefusal? recipients payload deadline with
  | some refusal =>
    simp only [broadcast, refused]
    exact .refl w
  | none =>
    refine ⟨Nat.le_trans (Nat.le_succ _) (Nat.le_of_eq (c.requestCount_broadcast refused).symm), ?_⟩
    obtain ⟨o, w', used, done, uses, -⟩ := c.broadcast_converses w refused
    rw [done]
    exact uses.returned

theorem later_relay (seeds : List RecipientId) (payload : Json) (marker : String) (deadline : Nat) :
    w.Later (c.relay seeds payload marker deadline w).2 := by
  cases refused : relayRefusal? seeds payload marker deadline with
  | some refusal =>
    rw [c.relay_of_refused refused]
    exact .refl w
  | none =>
    refine ⟨Nat.le_trans (Nat.le_succ _) (Nat.le_of_eq (c.requestCount_relay refused).symm), ?_⟩
    obtain ⟨r, w', used, done, uses, -⟩ := c.relay_converses w refused
    rw [done]
    exact uses.returned

end Coordinator

namespace BroadcastStream

variable (s : BroadcastStream) (w : World)

theorem later_use (a : StreamUse) : w.Later (s.use w a).2 := by
  obtain ⟨used, uses⟩ := s.use_uses w a
  exact ⟨Nat.le_of_eq (s.requestCount_use w a).symm, uses.returned⟩

theorem later_abandon : w.Later (s.abandon w) := by
  obtain ⟨used, carries⟩ := s.abandon_carriesOn w
  exact ⟨Nat.le_of_eq (s.requestCount_abandon w).symm, carries.returned⟩

end BroadcastStream

namespace Session

/-- What an act comes to. -/
inductive Effect where
  | world (w : World)
  /-- Something, or nothing, takes the place of the stream under a name. -/
  | stream (name : String) (later : Option BroadcastStream) (w : World)
  | channel (name : String) (later : Option Channel) (w : World)
  | joins (recipient : RecipientId) (participant : Participant)
  | leaves (recipient : RecipientId)
  | offline (offline : Bool)

def put (s : Session) : Effect → Session
  | .world w => { s with world := w }
  | .stream name later w => { s with world := w, streams := replace name later s.streams }
  | .channel name later w => { s with world := w, channels := replace name later s.channels }
  | .joins recipient participant => s.register recipient participant
  | .leaves recipient => s.unregister recipient
  | .offline offline => s.setOffline offline

def abandoned (name : String) (s : Session) (w : World) : World :=
  match s.stream? name with
  | some stream => stream.abandon w
  | none => w

def returned (name : String) (s : Session) (w : World) : World :=
  match s.channel? name with
  | some c => w.release c
  | none => w

def used (name : String) (a : StreamUse) (s : Session) : Effect :=
  match s.stream? name with
  | some stream => .stream name (some (stream.use s.world a).1) (stream.use s.world a).2
  | none => .world s.world

def begun (name : String) (s : Session) : Except Error BroadcastStream × World → Effect
  | (.error _, w) => .world w
  | (.ok stream, w) => .stream name (some stream) (s.abandoned name w)

def taken (name : String) (s : Session) : Except Error Channel × World → Effect
  | (.error _, w) => .world w
  | (.ok c, w) => .channel name (some c) (s.returned name w)

def published (name : String) : Except Error Channel × World → Effect
  | (.error _, w) => .world w
  | (.ok c, w) => .channel name (some c) w

def effect (s : Session) : Act → Effect
  | .dispatch recipient request => .world (s.office.dispatch recipient request s.world).2
  | .broadcast recipients payload deadline =>
    .world (s.office.coordinator.broadcast recipients payload deadline s.world).2
  | .relay seeds payload marker deadline =>
    .world (s.office.coordinator.relay seeds payload marker deadline s.world).2
  | .openStream name recipients payload deadline =>
    s.begun name (s.office.coordinator.stream recipients payload deadline s.world)
  | .nextEvent name => s.used name .poll
  | .glance name looks => s.used name (.glance looks)
  | .dropStream name => .stream name none (s.abandoned name s.world)
  | .openChannel name topic recipients => s.taken name (s.world.openChannel topic recipients)
  | .publishOn name payload =>
    match s.channel? name with
    | some c => published name
        ((s.world.newRequest payload).2.publish (s.world.newRequest payload).1 c)
    | none => .world s.world
  | .receiveFrom name budget =>
    match s.channel? name with
    | some c =>
      let (_, c, w) := s.world.receive c (s.world.now + budget)
      .channel name (some c) w
    | none => .world s.world
  | .dropChannel name => .channel name none (s.returned name s.world)
  | .sendTo recipient payload budget =>
    .world ((s.world.newRequest payload).2.send recipient (s.world.newRequest payload).1
      ((s.world.newRequest payload).2.now + budget)).2
  | .register recipient participant => .joins recipient participant
  | .unregister recipient => .leaves recipient
  | .setOffline offline => .offline offline
  | .sleep ms => .world (s.world.wait ms)

theorem act_eq_put (s : Session) (a : Act) : s.act a = s.put (s.effect a) := by
  cases a with
  | openStream name recipients payload deadline =>
    simp only [act, openStream, effect]
    rcases s.office.coordinator.stream recipients payload deadline s.world with ⟨_ | stream, w⟩
    · rfl
    · rfl
  | nextEvent name =>
    simp only [act, nextEvent, effect, used]
    cases s.stream? name <;> rfl
  | glance name looks =>
    simp only [act, glance, effect, used]
    cases s.stream? name <;> rfl
  | openChannel name topic recipients =>
    simp only [act, openChannel, effect]
    rcases s.world.openChannel topic recipients with ⟨_ | c, w⟩
    · rfl
    · rfl
  | publishOn name payload =>
    simp only [act, publishOn, effect]
    cases s.channel? name with
    | none => rfl
    | some c =>
      dsimp only
      rcases (s.world.newRequest payload).2.publish (s.world.newRequest payload).1 c with ⟨_ | c', w⟩
      · rfl
      · rfl
  | receiveFrom name budget =>
    simp only [act, receiveFrom, effect]
    cases s.channel? name <;> rfl
  | _ => rfl

theorem later_abandoned (name : String) (s : Session) (w : World) : w.Later (s.abandoned name w) := by
  unfold abandoned
  cases s.stream? name with
  | none => exact .refl w
  | some stream => exact stream.later_abandon w

theorem later_returned (name : String) (s : Session) (w : World) : w.Later (s.returned name w) := by
  unfold returned
  cases s.channel? name with
  | none => exact .refl w
  | some c => exact w.later_release c

/-- The world goes on, unless the network changes. -/
def Effect.Follows (w : World) : Effect → Prop
  | .world w' => w.Later w'
  | .stream _ _ w' => w.Later w'
  | .channel _ _ w' => w.Later w'
  | .joins _ _ => True
  | .leaves _ => True
  | .offline _ => True

theorem follows_begun (name : String) (s : Session) {o : Except Error BroadcastStream × World}
    (later : s.world.Later o.2) : (s.begun name o).Follows s.world := by
  obtain ⟨_ | stream, w⟩ := o
  · exact later
  · exact later.trans (later_abandoned name s w)

theorem follows_used (name : String) (a : StreamUse) (s : Session) :
    (s.used name a).Follows s.world := by
  unfold used
  cases s.stream? name with
  | none => exact .refl s.world
  | some stream => exact stream.later_use s.world a

theorem follows_taken (name : String) (s : Session) {o : Except Error Channel × World}
    (later : s.world.Later o.2) : (s.taken name o).Follows s.world := by
  obtain ⟨_ | c, w⟩ := o
  · exact later
  · exact later.trans (later_returned name s w)

theorem follows_published (name : String) {w : World} {o : Except Error Channel × World}
    (later : w.Later o.2) : (published name o).Follows w := by
  obtain ⟨_ | c, w'⟩ := o
  · exact later
  · exact later

theorem follows_effect (s : Session) (a : Act) : (s.effect a).Follows s.world := by
  cases a with
  | dispatch recipient request =>
    exact s.office.coordinator.later_dispatch s.world _ recipient request
  | broadcast recipients payload deadline =>
    exact s.office.coordinator.later_broadcast s.world recipients payload deadline
  | relay seeds payload marker deadline =>
    exact s.office.coordinator.later_relay s.world seeds payload marker deadline
  | openStream name recipients payload deadline =>
    apply follows_begun
    unfold Coordinator.stream
    cases broadcastRefusal? recipients payload deadline with
    | some refusal => exact .refl s.world
    | none => exact s.world.later_newRequest payload
  | nextEvent name => exact follows_used name .poll s
  | glance name looks => exact follows_used name (.glance looks) s
  | dropStream name => exact later_abandoned name s s.world
  | openChannel name topic recipients =>
    exact follows_taken name s (s.world.later_openChannel topic recipients)
  | publishOn name payload =>
    simp only [effect]
    cases s.channel? name with
    | none => exact .refl s.world
    | some c =>
      exact follows_published name ((s.world.later_newRequest payload).trans
        (World.later_publish (s.world.newRequest payload).1 c (s.world.newRequest payload).2))
  | receiveFrom name budget =>
    simp only [effect]
    cases s.channel? name with
    | none => exact .refl s.world
    | some c => exact s.world.later_receive c (s.world.now + budget)
  | dropChannel name => exact later_returned name s s.world
  | sendTo recipient payload budget =>
    exact (s.world.later_newRequest payload).trans (World.later_send recipient
      (s.world.newRequest payload).1 _ (s.world.newRequest payload).2)
  | register recipient participant => trivial
  | unregister recipient => trivial
  | setOffline offline => trivial
  | sleep ms => exact ⟨Nat.le_refl _, .refl _⟩

variable {name : String} {s : Session} {a : Act} {e : Effect}

/-- What a change of the network leaves as it is. -/
theorem office_changeNetwork (change : Network → Network) (s : Session) :
    (s.changeNetwork change).office = s.office ∧
      (s.changeNetwork change).world.requestCount = s.world.requestCount ∧
      (s.changeNetwork change).world.journal = s.world.journal ∧
      (s.changeNetwork change).streams = s.streams := by
  unfold changeNetwork
  split <;> exact ⟨rfl, rfl, rfl, rfl⟩

theorem released_changeNetwork {change : Network → Network}
    (same : ∀ n, (change n).released = n.released) (s : Session) :
    (s.changeNetwork change).world.transport.released = s.world.transport.released := by
  unfold changeNetwork
  split
  · rename_i n network
    rw [network]
    exact same n
  · rfl

theorem office_act (s : Session) (a : Act) : (s.act a).office = s.office := by
  rw [act_eq_put]
  cases s.effect a with
  | world w => rfl
  | stream name later w => rfl
  | channel name later w => rfl
  | joins recipient participant => exact (office_changeNetwork _ s.settle).1
  | leaves recipient => exact (office_changeNetwork _ s.settle).1
  | offline offline => exact (office_changeNetwork _ s).1

/-- Identifiers are not taken back. -/
theorem requestCount_put (follows : e.Follows s.world) :
    s.world.requestCount ≤ (s.put e).world.requestCount := by
  cases e with
  | world w => exact follows.requestCount
  | stream name later w => exact follows.requestCount
  | channel name later w => exact follows.requestCount
  | joins recipient participant => exact Nat.le_of_eq (office_changeNetwork _ s.settle).2.1.symm
  | leaves recipient => exact Nat.le_of_eq (office_changeNetwork _ s.settle).2.1.symm
  | offline offline => exact Nat.le_of_eq (office_changeNetwork _ s).2.1.symm

theorem requestCount_act (s : Session) (a : Act) :
    s.world.requestCount ≤ (s.act a).world.requestCount :=
  act_eq_put s a ▸ requestCount_put (s.follows_effect a)

theorem requestCount_run (acts : List Act) (s : Session) :
    s.world.requestCount ≤ (acts.foldl act s).world.requestCount := by
  induction acts generalizing s with
  | nil => exact Nat.le_refl _
  | cons a rest ih => exact Nat.le_trans (requestCount_act s a) (ih (s.act a))

/-- What is due is run on the channels that were given back. -/
theorem released_settle (s : Session) :
    ∃ registry moment patience, s.settle.world.transport.released =
      s.world.transport.released.map (·.run registry moment patience) := by
  refine ⟨s.world.transport.registry, s.world.clock.moment, s.world.patience, ?_⟩
  show (s.world.transport.settle s.world.clock.moment s.world.patience).released = _
  cases s.world.transport with
  | network n => rfl
  | playback p => rfl

/-- The channels that were given back are run at most, and those given back since are closed. -/
theorem released_put (follows : e.Follows s.world) :
    (∃ hubs : List Hub, (s.put e).world.transport.released =
      hubs.map Hub.close ++ s.world.transport.released) ∨
    ∃ registry moment patience, (s.put e).world.transport.released =
      s.world.transport.released.map (·.run registry moment patience) := by
  cases e with
  | world w => exact .inl follows.returned
  | stream name later w => exact .inl follows.returned
  | channel name later w => exact .inl follows.returned
  | joins recipient participant =>
    right
    obtain ⟨registry, moment, patience, settled⟩ := s.released_settle
    exact ⟨registry, moment, patience, (released_changeNetwork (by simp) s.settle).trans settled⟩
  | leaves recipient =>
    right
    obtain ⟨registry, moment, patience, settled⟩ := s.released_settle
    exact ⟨registry, moment, patience, (released_changeNetwork (by simp) s.settle).trans settled⟩
  | offline offline => exact .inl ⟨[], released_changeNetwork (by simp) s⟩

/-- On a channel that was given back nothing ever happens. -/
theorem run_close (registry : Registry) (moment : Moment) (patience : Nat) (h : Hub) :
    h.close.run registry moment patience = h.close := by
  cases patience <;> rfl

/-- A channel that was given back stays as it was left. -/
theorem close_mem_act {h : Hub} (given : h.close ∈ s.world.transport.released) (a : Act) :
    h.close ∈ (s.act a).world.transport.released := by
  rw [act_eq_put]
  rcases released_put (s.follows_effect a) with
    ⟨hubs, released⟩ | ⟨registry, moment, patience, released⟩
  · rw [released]
    exact List.mem_append_right _ given
  · rw [released]
    exact List.mem_map.2 ⟨h.close, given, run_close registry moment patience h⟩

theorem close_mem_run {h : Hub} (given : h.close ∈ s.world.transport.released) (acts : List Act) :
    h.close ∈ (acts.foldl act s).world.transport.released := by
  induction acts generalizing s with
  | nil => exact given
  | cons a rest ih => exact ih (close_mem_act given a)

end Session

end RollCall
