import RollCall.Proofs.Conversing
import RollCall.Proofs.Exchange
import RollCall.Session

set_option autoImplicit false

/-!
Who holds the channels of a network. Each step of a session gives back what it takes, but for the
streams and the channels that the session holds under names; so those that are open are those that
are held.
-/
namespace RollCall

namespace Session

section Named

variable {α : Type} (name : String) {entries : List (String × α)}

/-- What is held under a name makes way for something else, or for nothing. -/
def replace (later : Option α) (entries : List (String × α)) : List (String × α) :=
  (later.map fun a => (name, a)).toList ++ without name entries

def count (p : α → Bool) (entries : List (String × α)) : Nat := entries.countP fun e => p e.2

theorem count_cons (p : α → Bool) (e : String × α) :
    count p (e :: entries) = count p entries + (p e.2).toNat := by
  rw [count, List.countP_cons]
  cases p e.2 <;> rfl

theorem nodup_replace (later : Option α) (once : (entries.map Prod.fst).Nodup) :
    ((replace name later entries).map Prod.fst).Nodup := by
  have others : ((without name entries).map Prod.fst).Nodup :=
    once.sublist (List.filter_sublist.map Prod.fst)
  cases later with
  | none => exact others
  | some a =>
    refine List.nodup_cons.2 ⟨?_, others⟩
    intro member
    obtain ⟨e, kept, same⟩ := List.mem_map.1 member
    have other := (List.mem_filter.1 kept).2
    rw [same] at other
    simp at other

/-- Under one name one thing is held at most. -/
theorem count_without (once : (entries.map Prod.fst).Nodup) (p : α → Bool) :
    count p (without name entries) + ((List.lookup name entries).elim false p).toNat =
      count p entries := by
  induction entries with
  | nil => rfl
  | cons e rest ih =>
    obtain ⟨fresh, onceLater⟩ := List.nodup_cons.1 once
    obtain ⟨key, value⟩ := e
    rw [count_cons]
    by_cases same : key = name
    · subst same
      have others : without key rest = rest := by
        apply List.filter_eq_self.2
        intro e member
        have listed := List.mem_map_of_mem (f := Prod.fst) member
        have different : e.1 ≠ key := fun same => fresh (same ▸ listed)
        simpa using different
      have cut : without key ((key, value) :: rest) = rest := by
        rw [without, List.filter_cons_of_neg (by simp)]
        exact others
      rw [cut, List.lookup_cons_self]
      rfl
    · have differs : (name == key) = false := by
        simpa using Ne.symm same
      have other : List.lookup name ((key, value) :: rest) = List.lookup name rest := by
        rw [List.lookup_cons, differs]
      have kept : without name ((key, value) :: rest) = (key, value) :: without name rest := by
        rw [without, List.filter_cons_of_pos (by simpa using same)]
        rfl
      rw [other, kept, count_cons, ← ih onceLater]
      exact Nat.add_right_comm _ _ _

theorem count_replace (p : α → Bool) (later : Option α) :
    count p (replace name later entries) =
      count p (without name entries) + (later.elim false p).toNat := by
  cases later with
  | none => rfl
  | some a => exact count_cons p (name, a)

/-- One use of the world for each thing that makes way and for each that takes its place. -/
theorem hasOpen_replace {w w' : World} {others : Nat} {p : α → Bool} {later : Option α}
    (once : (entries.map Prod.fst).Nodup) (balance : w.HasOpen (others + count p entries))
    (moves : ∀ n, w.HasOpen (n + ((List.lookup name entries).elim false p).toNat) →
      w'.HasOpen (n + (later.elim false p).toNat)) :
    w'.HasOpen (others + count p (replace name later entries)) := by
  rw [← count_without name once p, ← Nat.add_assoc] at balance
  rw [count_replace, ← Nat.add_assoc]
  exact moves _ balance

end Named

def held (s : Session) : Nat := count BroadcastStream.holds s.streams + s.channels.length

/-- Of the channels that are open so many are held elsewhere, and the others in the session. -/
structure Balanced (elsewhere : Nat) (s : Session) : Prop where
  streams : (s.streams.map Prod.fst).Nodup
  channels : (s.channels.map Prod.fst).Nodup
  balance : s.world.HasOpen (elsewhere + s.held)

variable {elsewhere : Nat} {s : Session} {w : World}

/-- A use of the world that gives back what it takes. -/
theorem Balanced.inWorld (balanced : s.Balanced elsewhere)
    (even : ∀ n, s.world.HasOpen n → w.HasOpen n) : Balanced elsewhere { s with world := w } :=
  ⟨balanced.streams, balanced.channels, even _ balanced.balance⟩

theorem Balanced.replaceStream (balanced : s.Balanced elsewhere) (name : String)
    (later : Option BroadcastStream)
    (moves : ∀ n, s.world.HasOpen (n + ((s.stream? name).elim false BroadcastStream.holds).toNat) →
      w.HasOpen (n + (later.elim false BroadcastStream.holds).toNat)) :
    Balanced elsewhere { s with world := w, streams := replace name later s.streams } := by
  refine ⟨nodup_replace name later balanced.streams, balanced.channels, ?_⟩
  have balance := balanced.balance
  unfold held at balance ⊢
  rw [Nat.add_comm (count _ _), ← Nat.add_assoc] at balance ⊢
  exact hasOpen_replace name balanced.streams balance moves

theorem Balanced.replaceChannel (balanced : s.Balanced elsewhere) (name : String)
    (later : Option Channel)
    (moves : ∀ n, s.world.HasOpen (n + ((s.channel? name).elim false fun _ => true).toNat) →
      w.HasOpen (n + (later.elim false fun _ => true).toNat)) :
    Balanced elsewhere { s with world := w, channels := replace name later s.channels } := by
  refine ⟨balanced.streams, nodup_replace name later balanced.channels, ?_⟩
  have all (entries : List (String × Channel)) : entries.length = count (fun _ => true) entries :=
    (congrFun List.countP_true entries).symm
  have balance := balanced.balance
  unfold held at balance ⊢
  rw [all, ← Nat.add_assoc] at balance ⊢
  exact hasOpen_replace name balanced.channels balance moves

inductive Act where
  | dispatch (recipient : RecipientId) (request : Request)
  | broadcast (recipients : List RecipientId) (payload : Json) (deadline : Nat)
  | relay (seeds : List RecipientId) (payload : Json) (marker : String) (deadline : Nat)
  | openStream (name : String) (recipients : List RecipientId) (payload : Json) (deadline : Nat)
  | nextEvent (name : String)
  /-- The next event is waited for in vain. -/
  | glance (name : String) (looks : Nat)
  | dropStream (name : String)
  | openChannel (name topic : String) (recipients : List RecipientId)
  | publishOn (name : String) (payload : Json)
  | receiveFrom (name : String) (budget : Nat)
  | dropChannel (name : String)
  | sendTo (recipient : RecipientId) (payload : Json) (budget : Nat)
  | register (recipient : RecipientId) (participant : Participant)
  | unregister (recipient : RecipientId)
  | setOffline (offline : Bool)
  | sleep (ms : Nat)

/-- A poll of the stream under a name that is given up after so many looks at the channel. -/
def glance (name : String) (looks : Nat) (s : Session) : Session :=
  match s.stream? name with
  | none => s
  | some stream =>
    let (stream, w) := stream.use s.world (.glance looks)
    { s with world := w, streams := (name, stream) :: without name s.streams }

def act (s : Session) : Act → Session
  | .dispatch recipient request =>
    { s with world := (s.office.dispatch recipient request s.world).2 }
  | .broadcast recipients payload deadline =>
    { s with world := (s.office.coordinator.broadcast recipients payload deadline s.world).2 }
  | .relay seeds payload marker deadline =>
    { s with world := (s.office.coordinator.relay seeds payload marker deadline s.world).2 }
  | .openStream name recipients payload deadline => (s.openStream name recipients payload deadline).2
  | .nextEvent name => (s.nextEvent name).2
  | .glance name looks => s.glance name looks
  | .dropStream name => s.dropStream name
  | .openChannel name topic recipients => (s.openChannel name topic recipients).2
  | .publishOn name payload => (s.publishOn name payload).2
  | .receiveFrom name budget => (s.receiveFrom name budget).2
  | .dropChannel name => s.dropChannel name
  | .sendTo recipient payload budget => (s.sendTo recipient payload budget).2
  | .register recipient participant => s.register recipient participant
  | .unregister recipient => s.unregister recipient
  | .setOffline offline => s.setOffline offline
  | .sleep ms => s.sleep ms

/-- A unicast exchange opens no channel. -/
theorem hasOpen_send {n : Nat} (recipient : RecipientId) (request : Request) (limit : Nat)
    (opened : w.HasOpen n) : (w.send recipient request limit).2.HasOpen n := by
  obtain ⟨m, network, many⟩ := opened
  have answer : w.transport.answer? recipient request =
      (m.answer? recipient request, .network m) := by
    rw [network]
    rfl
  refine ⟨m, ?_, many⟩
  simp only [World.send, answer]
  cases m.answer? recipient request with
  | none => rfl
  | some timed =>
    dsimp only
    split
    · rfl
    · rfl

theorem Balanced.dispatch (balanced : s.Balanced elsewhere) (recipient : RecipientId)
    (request : Request) : (s.act (.dispatch recipient request)).Balanced elsewhere := by
  apply balanced.inWorld
  intro n opened
  unfold Office.dispatch
  cases refused : Coordinator.dispatchRefusal? recipient request with
  | some refusal =>
    rw [Coordinator.dispatch_of_refused _ _ _ refused]
    exact opened
  | none =>
    simp only [Coordinator.dispatch, refused]
    exact hasOpen_send (w := (s.office.coordinator.startSteps request.requestId
      [s.office.coordinator.exchangeLabel, recipient.text] s.world).2) _ _ _ opened

theorem Balanced.broadcast (balanced : s.Balanced elsewhere) (recipients : List RecipientId)
    (payload : Json) (deadline : Nat) :
    (s.act (.broadcast recipients payload deadline)).Balanced elsewhere := by
  apply balanced.inWorld
  intro n opened
  cases refused : broadcastRefusal? recipients payload deadline with
  | some refusal =>
    simp only [Coordinator.broadcast, refused]
    exact opened
  | none =>
    obtain ⟨o, w', used, done, uses, -⟩ := s.office.coordinator.broadcast_converses s.world refused
    rw [done]
    exact uses.channels n opened

theorem Balanced.relay (balanced : s.Balanced elsewhere) (seeds : List RecipientId)
    (payload : Json) (marker : String) (deadline : Nat) :
    (s.act (.relay seeds payload marker deadline)).Balanced elsewhere := by
  apply balanced.inWorld
  intro n opened
  cases refused : relayRefusal? seeds payload marker deadline with
  | some refusal =>
    rw [Coordinator.relay_of_refused _ refused]
    exact opened
  | none =>
    obtain ⟨o, w', used, done, uses, -⟩ := s.office.coordinator.relay_converses s.world refused
    rw [done]
    exact uses.channels n opened

/-- A stream that makes way is given up. -/
theorem hasOpen_dropStream (name : String) (s : Session) {n : Nat}
    (opened : s.world.HasOpen (n + ((s.stream? name).elim false BroadcastStream.holds).toNat)) :
    (s.dropStream name).world.HasOpen n := by
  unfold dropStream
  cases named : s.stream? name with
  | none =>
    rw [named] at opened
    exact opened
  | some stream =>
    rw [named] at opened
    obtain ⟨used, carries⟩ := stream.abandon_carriesOn s.world
    exact carries.channels n opened

theorem Balanced.dropStream (balanced : s.Balanced elsewhere) (name : String) :
    (s.dropStream name).Balanced elsewhere :=
  balanced.replaceStream name none fun _ opened => hasOpen_dropStream name s opened

theorem Balanced.openStream (balanced : s.Balanced elsewhere) (name : String)
    (recipients : List RecipientId) (payload : Json) (deadline : Nat) :
    (s.openStream name recipients payload deadline).2.Balanced elsewhere := by
  unfold Session.openStream Coordinator.stream
  cases refused : broadcastRefusal? recipients payload deadline with
  | some refusal => exact balanced.inWorld fun _ opened => opened
  | none =>
    exact balanced.replaceStream name (some _) fun _ opened =>
      hasOpen_dropStream name { s with world := (s.world.newRequest payload).2 } opened

theorem Balanced.use (balanced : s.Balanced elsewhere) {name : String} {stream : BroadcastStream}
    (named : s.stream? name = some stream) (a : StreamUse) :
    Balanced elsewhere
      { s with
        world := (stream.use s.world a).2
        streams := (name, (stream.use s.world a).1) :: without name s.streams } := by
  obtain ⟨used, uses⟩ := stream.use_uses s.world a
  apply balanced.replaceStream name (some (stream.use s.world a).1)
  rw [named]
  exact uses.channels

theorem Balanced.nextEvent (balanced : s.Balanced elsewhere) (name : String) :
    (s.nextEvent name).2.Balanced elsewhere := by
  unfold Session.nextEvent
  cases named : s.stream? name with
  | none => exact balanced
  | some stream => exact balanced.use named .poll

theorem Balanced.glance (balanced : s.Balanced elsewhere) (name : String) (looks : Nat) :
    (s.glance name looks).Balanced elsewhere := by
  unfold Session.glance
  cases named : s.stream? name with
  | none => exact balanced
  | some stream => exact balanced.use named (.glance looks)

/-- A channel that makes way is given back. -/
theorem hasOpen_dropChannel (name : String) (s : Session) {n : Nat}
    (opened : s.world.HasOpen (n + ((s.channel? name).elim false fun _ => true).toNat)) :
    (s.dropChannel name).world.HasOpen n := by
  unfold dropChannel
  cases named : s.channel? name with
  | none =>
    rw [named] at opened
    exact opened
  | some c =>
    rw [named] at opened
    exact (World.uses_release c s.world).channels n opened

theorem Balanced.dropChannel (balanced : s.Balanced elsewhere) (name : String) :
    (s.dropChannel name).Balanced elsewhere :=
  balanced.replaceChannel name none fun _ opened => hasOpen_dropChannel name s opened

theorem Balanced.openChannel (balanced : s.Balanced elsewhere) (name topic : String)
    (recipients : List RecipientId) :
    (s.openChannel name topic recipients).2.Balanced elsewhere := by
  unfold Session.openChannel
  rcases opening : s.world.openChannel topic recipients with ⟨outcome, w⟩
  obtain ⟨opens, -, -⟩ := World.uses_openChannel opening
  cases outcome with
  | error e => exact balanced.inWorld opens.channels
  | ok c =>
    apply balanced.replaceChannel name (some c)
    intro n opened
    -- the old channel is still open when the new one is opened, and only then given back
    have more := opens.channels (n + ((s.channel? name).elim false fun _ => true).toNat) opened
    rw [Nat.add_right_comm] at more
    exact hasOpen_dropChannel name { s with world := w } more

theorem Balanced.publishOn (balanced : s.Balanced elsewhere) (name : String) (payload : Json) :
    (s.publishOn name payload).2.Balanced elsewhere := by
  unfold Session.publishOn
  cases named : s.channel? name with
  | none => exact balanced
  | some c =>
    dsimp only
    rcases publishing : (s.world.newRequest payload).2.publish (s.world.newRequest payload).1 c with
      ⟨outcome, w⟩
    obtain ⟨publishes, -⟩ := World.uses_publish false publishing
    have even : ∀ n, s.world.HasOpen n → w.HasOpen n := publishes.channels
    cases outcome with
    | error e => exact balanced.inWorld even
    | ok c' =>
      apply balanced.replaceChannel name (some c')
      rw [named]
      exact fun n => even _

theorem Balanced.receiveFrom (balanced : s.Balanced elsewhere) (name : String) (budget : Nat) :
    (s.receiveFrom name budget).2.Balanced elsewhere := by
  unfold Session.receiveFrom
  cases named : s.channel? name with
  | none => exact balanced
  | some c =>
    dsimp only
    rcases received : s.world.receive c (s.world.now + budget) with ⟨reading, c', w⟩
    have reads := World.uses_receive true received
    apply balanced.replaceChannel name (some c')
    rw [named]
    exact reads.channels

theorem Balanced.changeNetwork (balanced : s.Balanced elsewhere) {change : Network → Network}
    (same : ∀ n, (change n).openChannels = n.openChannels) :
    (s.changeNetwork change).Balanced elsewhere := by
  obtain ⟨streams, channels, n, network, many⟩ := balanced
  simp only [Session.changeNetwork, network]
  exact ⟨streams, channels, change n, rfl, (same n).trans many⟩

theorem holds_settle (registry : Registry) (moment : Moment) (patience : Nat)
    (s : BroadcastStream) : (s.settle registry moment patience).holds = s.holds := by
  unfold BroadcastStream.settle BroadcastStream.holds
  cases stage : s.stage with
  | idle c recipients request deadline => simp [stage]
  | running f =>
    dsimp only [StreamStage.holds]
    exact Option.isSome_map
  | ended => simp [stage]

theorem Balanced.settle (balanced : s.Balanced elsewhere) : s.settle.Balanced elsewhere := by
  obtain ⟨streams, channels, balance⟩ := balanced
  refine ⟨?_, ?_, ?_⟩
  · unfold Session.settle
    rw [List.map_map]
    exact streams
  · unfold Session.settle
    rw [List.map_map]
    exact channels
  · unfold held Session.settle count at *
    rw [List.length_map, List.countP_map]
    simp only [Function.comp_def, holds_settle]
    obtain ⟨n, network, many⟩ := balance
    refine ⟨n.settle s.world.clock.moment s.world.patience, ?_, many⟩
    rw [network]
    rfl

/-- Every step of a session keeps the balance. -/
theorem Balanced.act (balanced : s.Balanced elsewhere) (a : Act) :
    (s.act a).Balanced elsewhere := by
  cases a with
  | dispatch recipient request => exact balanced.dispatch recipient request
  | broadcast recipients payload deadline => exact balanced.broadcast recipients payload deadline
  | relay seeds payload marker deadline => exact balanced.relay seeds payload marker deadline
  | openStream name recipients payload deadline =>
    exact balanced.openStream name recipients payload deadline
  | nextEvent name => exact balanced.nextEvent name
  | glance name looks => exact balanced.glance name looks
  | dropStream name => exact balanced.dropStream name
  | openChannel name topic recipients => exact balanced.openChannel name topic recipients
  | publishOn name payload => exact balanced.publishOn name payload
  | receiveFrom name budget => exact balanced.receiveFrom name budget
  | dropChannel name => exact balanced.dropChannel name
  | sendTo recipient payload budget =>
    exact balanced.inWorld fun n opened =>
      hasOpen_send (w := (s.world.newRequest payload).2) _ _ _ opened
  | register recipient participant => exact balanced.settle.changeNetwork fun _ => rfl
  | unregister recipient => exact balanced.settle.changeNetwork fun _ => rfl
  | setOffline offline => exact balanced.changeNetwork fun _ => rfl
  | sleep ms => exact balanced.inWorld fun _ opened => opened

/-- So does a session of any length. -/
theorem Balanced.run (balanced : s.Balanced elsewhere) (acts : List Act) :
    (acts.foldl Session.act s).Balanced elsewhere := by
  induction acts generalizing s with
  | nil => exact balanced
  | cons a rest ih => exact ih (balanced.act a)

theorem channels_changeNetwork (change : Network → Network) (s : Session) :
    (s.changeNetwork change).channels = s.channels := by
  unfold changeNetwork
  split <;> rfl

/-- A session in which no channel is opened by itself holds none but those of its streams. -/
theorem channels_act (none : s.channels = []) {a : Act}
    (indirect : ∀ name topic recipients, a ≠ .openChannel name topic recipients) :
    (s.act a).channels = [] := by
  have settled : s.settle.channels = [] := by
    unfold Session.settle
    rw [none]
    rfl
  cases a with
  | dispatch recipient request => exact none
  | broadcast recipients payload deadline => exact none
  | relay seeds payload marker deadline => exact none
  | openStream name recipients payload deadline =>
    simp only [act, Session.openStream, Coordinator.stream]
    split <;> exact none
  | nextEvent name =>
    simp only [act, Session.nextEvent]
    split <;> exact none
  | glance name looks =>
    simp only [act, Session.glance]
    split <;> exact none
  | dropStream name => exact none
  | openChannel name topic recipients => exact absurd rfl (indirect name topic recipients)
  | publishOn name payload => simp [act, Session.publishOn, channel?, none]
  | receiveFrom name budget => simp [act, Session.receiveFrom, channel?, none]
  | dropChannel name => simp [act, Session.dropChannel, without, none]
  | sendTo recipient payload budget => exact none
  | register recipient participant =>
    simp only [act, register, channels_changeNetwork]
    exact settled
  | unregister recipient =>
    simp only [act, unregister, channels_changeNetwork]
    exact settled
  | setOffline offline =>
    simp only [act, setOffline, channels_changeNetwork]
    exact none
  | sleep ms => exact none

theorem channels_run (none : s.channels = []) {acts : List Act}
    (indirect : ∀ name topic recipients, .openChannel name topic recipients ∉ acts) :
    (acts.foldl Session.act s).channels = [] := by
  induction acts generalizing s with
  | nil => exact none
  | cons a rest ih =>
    apply ih
    · apply channels_act none
      intro name topic recipients same
      exact indirect name topic recipients (same ▸ List.mem_cons_self)
    · intro name topic recipients member
      exact indirect name topic recipients (List.mem_cons_of_mem _ member)

/-- In a session on a network so many more channels are open than at its beginning as it holds. -/
theorem openChannels_run (o : Office) (acts : List Act) {n : Network}
    (network : w.transport = .network n) :
    ∃ n', (acts.foldl Session.act (opened o w)).world.transport = .network n' ∧
      n'.openChannels = n.openChannels + (acts.foldl Session.act (opened o w)).held ∧
      ((∀ name topic members, .openChannel name topic members ∉ acts) →
        (acts.foldl Session.act (opened o w)).held =
          (acts.foldl Session.act (opened o w)).streams.countP fun e => e.2.holds) := by
  have begins : (opened o w).Balanced n.openChannels :=
    ⟨List.nodup_nil, List.nodup_nil, n, network, rfl⟩
  obtain ⟨-, -, n', networkLater, balance⟩ := begins.run acts
  refine ⟨n', networkLater, balance, ?_⟩
  intro indirect
  have none : (acts.foldl Session.act (opened o w)).channels = [] := channels_run rfl indirect
  unfold held
  rw [none]
  rfl

end Session

namespace Coordinator

variable (c : Coordinator) (recipients : List RecipientId) (payload : Json) (marker : String)
  (deadline : Nat)

/--
A broadcast, a relay and a stream that has been polled each open one channel for their recipients,
publish their request on it once if it opens, read it only after that and never after a failed read,
and give it back once; the first two before they return, a stream when it ends or is given up.
Whatever is done in a session on a network, the channels that are open are those that are held.
-/
theorem converses_once :
    (∀ w, broadcastRefusal? recipients payload deadline = none →
      ∃ o w' used, c.broadcast recipients payload deadline w = (.ok o, w') ∧
        w'.calls = used.reverse ++ w.calls ∧
        Conversation w.transport (c.topic "broadcast" o.requestId) (distinct recipients)
          ⟨o.requestId, payload⟩ false used) ∧
    (∀ w, relayRefusal? recipients payload marker deadline = none →
      ∃ r w' used, c.relay recipients payload marker deadline w = (.ok r, w') ∧
        w'.calls = used.reverse ++ w.calls ∧
        Conversation w.transport (c.topic "relay" r.requestId) recipients
          ⟨r.requestId, payload⟩ false used) ∧
    (∀ w, broadcastRefusal? recipients payload deadline = none →
      ∃ s w', c.stream recipients payload deadline w = (.ok s, w') ∧ w'.calls = w.calls ∧
        ∀ t log s', s.Polls t log s' →
          Conversation t (c.topic "broadcast" s.requestId) (distinct recipients)
            ⟨s.requestId, payload⟩ s'.holds log ∧
          (s'.stage = .ended → s'.holds = false) ∧
          ∀ v, ∃ last, (s'.abandon v).calls = last.reverse ++ v.calls ∧
            Conversation t (c.topic "broadcast" s.requestId) (distinct recipients)
              ⟨s.requestId, payload⟩ false (log ++ last)) ∧
    ∀ (o : Office) (w : World) (n : Network) (acts : List Session.Act),
      w.transport = .network n →
      ∃ n', (acts.foldl Session.act (Session.opened o w)).world.transport = .network n' ∧
        n'.openChannels =
          n.openChannels + (acts.foldl Session.act (Session.opened o w)).held ∧
        ((∀ name topic members, .openChannel name topic members ∉ acts) →
          (acts.foldl Session.act (Session.opened o w)).held =
            (acts.foldl Session.act (Session.opened o w)).streams.countP fun e => e.2.holds) := by
  refine ⟨?_, ?_, ?_, ?_⟩
  · intro w accepted
    obtain ⟨o, w', used, done, uses, conversation⟩ := c.broadcast_converses w accepted
    exact ⟨o, w', used, done, uses.calls, conversation⟩
  · intro w accepted
    obtain ⟨r, w', used, done, uses, conversation⟩ := c.relay_converses w accepted
    exact ⟨r, w', used, done, uses.calls, conversation⟩
  · intro w accepted
    obtain ⟨s, made, idle⟩ := c.stream_idle w accepted
    refine ⟨s, _, made, rfl, ?_⟩
    intro t log s' polls
    obtain ⟨-, conversation⟩ := polls.converses idle
    refine ⟨conversation, fun ended => congrArg StreamStage.holds ended, fun v => ?_⟩
    obtain ⟨last, carries⟩ := s'.abandon_carriesOn v
    exact ⟨last, carries.calls, carries.continues conversation⟩
  · intro o w n acts network
    exact Session.openChannels_run o acts network

end Coordinator

def World.deserted : World :=
  { rehearsal [] with transport := .network (Network.empty fun _ => ⟨0, 0⟩) }

/-- Three streams: one is given up while it waits, one comes to its end, one goes on waiting. -/
def Session.Act.rehearsal : List Session.Act :=
  [.openStream "x" [⟨"a"⟩] (.string "hi") 50, .openStream "y" [⟨"b"⟩] (.string "hi") 50,
    .glance "x" 0, .nextEvent "y", .glance "y" 0, .dropStream "x",
    .openStream "z" [⟨"a"⟩] (.string "hi") 50, .glance "z" 1]

namespace Coordinator

/-- Three calls on a channel that breaks, and a session after which one stream holds a channel. -/
theorem converses_once_rehearsal :
    (∃ o w' used, rehearsal.broadcast [⟨"a"⟩, ⟨"b"⟩, ⟨"a"⟩] (.string "hi") 50
        (World.rehearsal []) = (.ok o, w') ∧ w'.calls = used.reverse ∧
      Conversation (World.rehearsal []).transport (rehearsal.topic "broadcast" o.requestId)
        [⟨"a"⟩, ⟨"b"⟩] ⟨o.requestId, .string "hi"⟩ false used) ∧
    (∃ r w' used, rehearsal.relay [⟨"a"⟩, ⟨"b"⟩, ⟨"a"⟩] (.string "hi") "no" 50
        (World.rehearsal []) = (.ok r, w') ∧ w'.calls = used.reverse ∧
      Conversation (World.rehearsal []).transport (rehearsal.topic "relay" r.requestId)
        [⟨"a"⟩, ⟨"b"⟩, ⟨"a"⟩] ⟨r.requestId, .string "hi"⟩ false used) ∧
    (∃ s w', rehearsal.stream [⟨"a"⟩, ⟨"b"⟩, ⟨"a"⟩] (.string "hi") 50 (World.rehearsal []) =
        (.ok s, w') ∧
      Conversation (World.rehearsal []).transport (rehearsal.topic "broadcast" s.requestId)
        [⟨"a"⟩, ⟨"b"⟩] ⟨s.requestId, .string "hi"⟩ (s.use (World.rehearsal []) .poll).1.holds
        (s.use (World.rehearsal []) .poll).2.calls.reverse) ∧
    ∃ n', (Session.Act.rehearsal.foldl Session.act (Session.opened ⟨Settings.standard, by decide⟩
        World.deserted)).world.transport = .network n' ∧ n'.openChannels = 1 := by
  have accepted : broadcastRefusal? [⟨"a"⟩, ⟨"b"⟩, ⟨"a"⟩] (.string "hi") 50 = none := by decide
  have started : relayRefusal? [⟨"a"⟩, ⟨"b"⟩, ⟨"a"⟩] (.string "hi") "no" 50 = none := by decide
  obtain ⟨broadcasts, relays, streams, sessions⟩ :=
    rehearsal.converses_once [⟨"a"⟩, ⟨"b"⟩, ⟨"a"⟩] (.string "hi") "no" 50
  obtain ⟨o, w', used, done, calls, conversation⟩ := broadcasts (World.rehearsal []) accepted
  obtain ⟨r, u', told, answered, logged, exchange⟩ := relays (World.rehearsal []) started
  obtain ⟨s, v', made, -, polled⟩ := streams (World.rehearsal []) accepted
  have all : (s.use (World.rehearsal []) .poll).2.calls =
      (s.use (World.rehearsal []) .poll).2.calls.reverse.reverse ++ [] := by
    rw [List.reverse_reverse, List.append_nil]
  obtain ⟨first, -⟩ := polled _ (s.use (World.rehearsal []) .poll).2.calls.reverse _
    (.first (a := .poll) (w := World.rehearsal []) rfl all)
  obtain ⟨n', network, balance, -⟩ := sessions ⟨Settings.standard, by decide⟩
    World.deserted _ Session.Act.rehearsal rfl
  refine ⟨⟨o, w', used, done, calls.trans (List.append_nil _), conversation⟩,
    ⟨r, u', told, answered, logged.trans (List.append_nil _), exchange⟩, ⟨s, v', made, first⟩, n',
    network, ?_⟩
  rw [balance]
  decide +kernel

end Coordinator

end RollCall
