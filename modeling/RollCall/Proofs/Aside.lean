import RollCall.Proofs.Elsewhere

set_option autoImplicit false

/-!
Sessions beside one request. Whatever is done for other requests leaves alone what is stored of this
one, and asks nobody for it: the session goes on in the same way if its participants are replaced by
others who would answer differently, but only to messages of this request.
-/
namespace RollCall

namespace Session

/--
A session in which all channels, those that were given back as well, and the streams under names of
a kind have nothing to do with a request.
-/
structure Aside (others : String → Prop) (id : RequestId) (s : Session) : Prop where
  streams : ∀ e ∈ s.streams, others e.1 →
    e.2.stage.Apart s.office.coordinator (· = id) ∧ e.2.stage.Clear id
  channels : ∀ e ∈ s.channels, e.2.Clear id
  released : ∀ h ∈ s.world.transport.released, h.Clear id

/-- An act that is not about a request, nor about the streams that may be. -/
structure Act.Aside (others : String → Prop) (id : RequestId) (a : Act) (s : Session) : Prop where
  stream : ∀ name, a.stream? = some name → others name
  request : a.request? ≠ some id
  fresh : s.world.requestCount < (s.act a).world.requestCount →
    RequestId.generated s.world.requestCount ≠ id

/--
What comes of an act that is not about a request: nothing is written of it, and what takes a place
has nothing to do with it.
-/
def Effect.Spares (Sound : Journal → Prop) (others : String → Prop) (id : RequestId) (s : Session) :
    Effect → Prop
  | .world w => s.world.journal.Bypasses Sound (· = id) w.journal
  | .stream name later w => s.world.journal.Bypasses Sound (· = id) w.journal ∧
      ∀ t ∈ later, others name → t.stage.Apart s.office.coordinator (· = id) ∧ t.stage.Clear id
  | .channel _ later w => s.world.journal.Bypasses Sound (· = id) w.journal ∧
      ∀ c ∈ later, c.Clear id
  | .joins _ _ => True
  | .leaves _ => True
  | .offline _ => True

end Session

theorem StreamStage.Clear.settle {id : RequestId} {s : BroadcastStream} (clear : s.stage.Clear id)
    {change : RecipientId → Participant → Participant} (shows : ShowsOnlyOn id change)
    (registry : Registry) (moment : Moment) (patience : Nat) :
    s.settle (registry.altered change) moment patience = s.settle registry moment patience ∧
      (s.settle registry moment patience).stage.Clear id := by
  unfold BroadcastStream.settle
  cases stage : s.stage with
  | idle c recipients request deadline =>
    refine ⟨rfl, ?_⟩
    dsimp only
    rw [stage]
    trivial
  | running f =>
    rw [stage] at clear
    cases channel : f.channel with
    | none =>
      refine ⟨by simp only [channel, Option.map_none], ?_⟩
      intro ch held
      simp only [channel, Option.map_none] at held
      cases held
    | some c =>
      obtain ⟨same, still⟩ := (clear c channel).settle shows registry moment patience
      refine ⟨by simp only [channel, Option.map_some, same], ?_⟩
      intro ch held
      simp only [channel, Option.map_some] at held
      cases held
      exact still
  | ended =>
    refine ⟨rfl, ?_⟩
    dsimp only
    rw [stage]
    trivial

theorem StreamStage.Apart.settle {spared : RequestId → Prop} {c : Coordinator} {s : BroadcastStream}
    (apart : s.stage.Apart c spared) (registry : Registry) (moment : Moment) (patience : Nat) :
    (s.settle registry moment patience).stage.Apart c spared := by
  unfold BroadcastStream.settle
  cases stage : s.stage with
  | idle c recipients request deadline =>
    dsimp only
    rw [stage] at apart ⊢
    exact apart
  | running f =>
    rw [stage] at apart
    exact apart
  | ended =>
    dsimp only
    rw [stage]
    trivial

theorem World.elapses_wait (ms : Nat) (w : World) : w.journal.Elapses (w.wait ms).journal :=
  ⟨rfl, Clock.onward_wait _ _, rfl⟩

theorem World.elapses_openChannel (topic : String) (recipients : List RecipientId) (w : World) :
    w.journal.Elapses (w.openChannel topic recipients).2.journal :=
  elapses_await (w.transport.openChannel topic recipients).2.1
    { w.log (.open topic recipients) with
      transport := (w.transport.openChannel topic recipients).2.2 }

theorem World.elapses_publish (request : Request) (c : Channel) (w : World) :
    w.journal.Elapses (w.publish request c).2.journal :=
  elapses_await c.publishDelay (w.log (.publish request.payload))

/-- Nobody is changed. -/
theorem showsOnlyOn_same (id : RequestId) : ShowsOnlyOn id fun _ p => p := fun _ _ _ _ => rfl

namespace Session

variable {name : String} {s : Session} {a : Act} {w : World} {others : String → Prop}
  {id : RequestId} {Sound : Journal → Prop}

theorem journal_abandoned (name : String) (s : Session) (w : World) :
    (s.abandoned name w).journal = w.journal := by
  unfold abandoned
  cases s.stream? name with
  | none => rfl
  | some stream => exact stream.abandon_journal w

theorem journal_returned (name : String) (s : Session) (w : World) :
    (s.returned name w).journal = w.journal := by
  unfold returned
  cases s.channel? name <;> rfl

/-- A broadcast that is not refused takes an identifier. -/
theorem Act.Aside.fresh_broadcast {recipients : List RecipientId} {payload : Json} {deadline : Nat}
    (elsewhere : Act.Aside others id (.broadcast recipients payload deadline) s)
    (accepted : broadcastRefusal? recipients payload deadline = none) :
    RequestId.generated s.world.requestCount ≠ id := by
  apply elsewhere.fresh
  simp only [act, Coordinator.requestCount_broadcast _ accepted]
  exact Nat.lt_succ_self _

theorem Act.Aside.fresh_relay {seeds : List RecipientId} {payload : Json} {marker : String}
    {deadline : Nat} (elsewhere : Act.Aside others id (.relay seeds payload marker deadline) s)
    (accepted : relayRefusal? seeds payload marker deadline = none) :
    RequestId.generated s.world.requestCount ≠ id := by
  apply elsewhere.fresh
  simp only [act, Coordinator.requestCount_relay _ accepted]
  exact Nat.lt_succ_self _

theorem Act.Aside.fresh_publishOn {payload : Json} {c : Channel}
    (elsewhere : Act.Aside others id (.publishOn name payload) s)
    (named : s.channel? name = some c) : RequestId.generated s.world.requestCount ≠ id := by
  apply elsewhere.fresh
  have counted (o : Except Error Channel × World) :
      (s.put (published name o)).world.requestCount = o.2.requestCount := by
    obtain ⟨_ | c, w⟩ := o <;> rfl
  rw [act_eq_put]
  simp only [effect, named]
  rw [counted, World.requestCount_publish]
  exact Nat.lt_succ_self _

theorem Act.Aside.fresh_sendTo {recipient : RecipientId} {payload : Json} {budget : Nat}
    (elsewhere : Act.Aside others id (.sendTo recipient payload budget) s) :
    RequestId.generated s.world.requestCount ≠ id := by
  apply elsewhere.fresh
  exact Nat.lt_of_lt_of_eq (Nat.lt_succ_self _) (World.requestCount_send recipient
    (s.world.newRequest payload).1 _ (s.world.newRequest payload).2).symm

namespace Aside

theorem stream (aside : s.Aside others id) {stream : BroadcastStream}
    (named : s.stream? name = some stream) (other : others name) :
    stream.stage.Apart s.office.coordinator (· = id) ∧ stream.stage.Clear id :=
  aside.streams (name, stream) (mem_of_lookup named) other

/-- A channel that is given back later has nothing to do with the request either. -/
theorem released_of_later (aside : s.Aside others id) (later : s.world.Later w) :
    ∀ h ∈ w.transport.released, h.Clear id := by
  obtain ⟨hubs, returned⟩ := later.returned
  intro h member
  rw [returned] at member
  rcases List.mem_append.1 member with new | before
  · obtain ⟨k, -, rfl⟩ := List.mem_map.1 new
    exact Hub.clear_close id k
  · exact aside.released h before

theorem settle (aside : s.Aside others id) : s.settle.Aside others id := by
  refine ⟨?_, ?_, ?_⟩
  · intro e member other
    obtain ⟨e₀, listed, rfl⟩ := List.mem_map.1 member
    obtain ⟨apart, clear⟩ := aside.streams e₀ listed other
    exact ⟨apart.settle _ _ _, (clear.settle (showsOnlyOn_same id) _ _ _).2⟩
  · intro e member
    obtain ⟨e₀, listed, rfl⟩ := List.mem_map.1 member
    exact ((aside.channels e₀ listed).settle (showsOnlyOn_same id) _ _ _).2
  · obtain ⟨registry, moment, patience, settled⟩ := s.released_settle
    intro h member
    rw [settled] at member
    obtain ⟨k, before, rfl⟩ := List.mem_map.1 member
    exact ((aside.released k before).run (showsOnlyOn_same id) registry moment patience).2

theorem changeNetwork (aside : s.Aside others id) {change : Network → Network}
    (same : ∀ n, (change n).released = n.released) : (s.changeNetwork change).Aside others id := by
  have released := released_changeNetwork same s
  have channels := channels_changeNetwork change s
  obtain ⟨office, -, -, streams⟩ := office_changeNetwork change s
  refine ⟨?_, ?_, ?_⟩
  · rw [streams, office]
    exact aside.streams
  · rw [channels]
    exact aside.channels
  · rw [released]
    exact aside.released

/-- What comes of an act that is not about a request leaves it alone, and leaves everything
aside. -/
theorem put (aside : s.Aside others id) {e : Effect} (follows : e.Follows s.world)
    (spares : e.Spares Sound others id s) :
    (s.put e).Aside others id ∧
      s.world.journal.Bypasses Sound (· = id) (s.put e).world.journal := by
  have unwritten {s' : Session} (same : s'.world.journal = s.world.journal) :
      s.world.journal.Bypasses Sound (· = id) s'.world.journal :=
    same ▸ .refl Sound (· = id) _
  cases e with
  | world w => exact ⟨⟨aside.streams, aside.channels, aside.released_of_later follows⟩, spares⟩
  | stream name later w =>
    have streams := forall_mem_replace (P := fun name (t : BroadcastStream) => others name →
      t.stage.Apart s.office.coordinator (· = id) ∧ t.stage.Clear id) aside.streams spares.2
    exact ⟨⟨streams, aside.channels, aside.released_of_later follows⟩, spares.1⟩
  | channel name later w =>
    have channels : ∀ e ∈ replace name later s.channels, e.2.Clear id :=
      forall_mem_replace (P := fun _ (c : Channel) => c.Clear id) aside.channels spares.2
    exact ⟨⟨aside.streams, channels, aside.released_of_later follows⟩, spares.1⟩
  | joins recipient participant =>
    exact ⟨aside.settle.changeNetwork (by simp), unwritten (office_changeNetwork _ s.settle).2.2.1⟩
  | leaves recipient =>
    exact ⟨aside.settle.changeNetwork (by simp), unwritten (office_changeNetwork _ s.settle).2.2.1⟩
  | offline offline =>
    exact ⟨aside.changeNetwork (by simp), unwritten (office_changeNetwork _ s).2.2.1⟩

/-- A use of a stream of another request. -/
theorem spares_used (aside : s.Aside others id) (retains : s.office.recorder.Retains Sound)
    (other : others name) (use : StreamUse) : (s.used name use).Spares Sound others id s := by
  unfold used
  cases named : s.stream? name with
  | none => exact .refl Sound (· = id) _
  | some stream =>
    obtain ⟨apart, clear⟩ := aside.stream named other
    obtain ⟨still, bypasses⟩ := stream.use_bypasses retains apart s.world use
    obtain ⟨-, silent⟩ := stream.use_altered (showsOnlyOn_same id) apart clear s.world use
    refine ⟨bypasses, ?_⟩
    intro t later _
    rw [← Option.some.inj later]
    exact ⟨still, silent⟩

theorem spares_publishOn (aside : s.Aside others id) (retains : s.office.recorder.Retains Sound)
    {payload : Json} (elsewhere : Act.Aside others id (.publishOn name payload) s) :
    (s.effect (.publishOn name payload)).Spares Sound others id s := by
  simp only [effect]
  cases named : s.channel? name with
  | none => exact .refl Sound (· = id) _
  | some c =>
    have elapses := (World.elapses_publish (s.world.newRequest payload).1 c
      (s.world.newRequest payload).2).bypasses retains (· = id)
    dsimp only
    rcases publishing : (s.world.newRequest payload).2.publish (s.world.newRequest payload).1 c with
      ⟨_ | c', w⟩
    all_goals rw [publishing] at elapses
    · exact elapses
    · refine ⟨elapses, ?_⟩
      intro c'' put
      rw [← Option.some.inj put]
      exact World.clear_publish (elsewhere.fresh_publishOn named)
        (aside.channels _ (mem_of_lookup named)) (congrArg Prod.fst publishing)

theorem spares_receiveFrom (aside : s.Aside others id) (retains : s.office.recorder.Retains Sound)
    (name : String) (budget : Nat) :
    (s.effect (.receiveFrom name budget)).Spares Sound others id s := by
  simp only [effect]
  cases named : s.channel? name with
  | none => exact .refl Sound (· = id) _
  | some c =>
    have elapses := World.elapses_receive c (s.world.now + budget) s.world
    obtain ⟨-, silent⟩ := World.receive_altered (showsOnlyOn_same id)
      (aside.channels _ (mem_of_lookup named)) (s.world.now + budget) s.world
    refine ⟨elapses.bypasses retains (· = id), ?_⟩
    intro c' read
    rw [← Option.some.inj read]
    exact silent

end Aside

theorem spares_broadcast (retains : s.office.recorder.Retains Sound)
    {recipients : List RecipientId} {payload : Json} {deadline : Nat}
    (elsewhere : Act.Aside others id (.broadcast recipients payload deadline) s) :
    (s.effect (.broadcast recipients payload deadline)).Spares Sound others id s := by
  cases refused : broadcastRefusal? recipients payload deadline with
  | some refusal =>
    simp only [effect, Coordinator.broadcast, refused]
    exact .refl Sound (· = id) _
  | none =>
    exact Coordinator.broadcast_bypasses (c := s.office.coordinator) retains recipients payload
      deadline (elsewhere.fresh_broadcast refused)

theorem spares_relay (retains : s.office.recorder.Retains Sound) {seeds : List RecipientId}
    {payload : Json} {marker : String} {deadline : Nat}
    (elsewhere : Act.Aside others id (.relay seeds payload marker deadline) s) :
    (s.effect (.relay seeds payload marker deadline)).Spares Sound others id s := by
  cases refused : relayRefusal? seeds payload marker deadline with
  | some refusal =>
    simp only [effect, Coordinator.relay_of_refused _ refused]
    exact .refl Sound (· = id) _
  | none =>
    exact Coordinator.relay_bypasses (c := s.office.coordinator) retains seeds payload marker
      deadline (elsewhere.fresh_relay refused)

theorem spares_openStream {recipients : List RecipientId} {payload : Json} {deadline : Nat}
    (fresh : s.world.requestCount <
        (s.act (.openStream name recipients payload deadline)).world.requestCount →
      others name → RequestId.generated s.world.requestCount ≠ id) :
    (s.effect (.openStream name recipients payload deadline)).Spares Sound others id s := by
  rw [act_eq_put] at fresh
  simp only [effect, Coordinator.stream] at fresh ⊢
  cases refused : broadcastRefusal? recipients payload deadline with
  | some refusal => exact .refl Sound (· = id) _
  | none =>
    simp only [refused, begun] at fresh ⊢
    have more := (later_abandoned name s (s.world.newRequest payload).2).requestCount
    have elsewhere := fresh more
    refine ⟨?_, ?_⟩
    · rw [journal_abandoned]
      exact .refl Sound (· = id) _
    · intro t begun other
      rw [← Option.some.inj begun]
      exact ⟨⟨rfl, elsewhere other⟩, trivial⟩

theorem spares_openChannel (retains : s.office.recorder.Retains Sound) (name topic : String)
    (recipients : List RecipientId) :
    (s.effect (.openChannel name topic recipients)).Spares Sound others id s := by
  have opens := (World.elapses_openChannel topic recipients s.world).bypasses retains (· = id)
  obtain ⟨-, clear⟩ := World.openChannel_altered id (fun _ p => p) topic recipients s.world
  simp only [effect]
  generalize s.world.openChannel topic recipients = o at opens clear ⊢
  obtain ⟨_ | c, w⟩ := o
  · exact opens
  · refine ⟨journal_returned name s w ▸ opens, ?_⟩
    intro c' opened
    rw [← Option.some.inj opened]
    exact clear c rfl

/-- An act that is not about a request comes to nothing that is. -/
theorem Aside.spares (aside : s.Aside others id) (retains : s.office.recorder.Retains Sound)
    (elsewhere : a.Aside others id s) : (s.effect a).Spares Sound others id s := by
  have still (j : Journal) (same : j = s.world.journal) :
      s.world.journal.Bypasses Sound (· = id) j := same ▸ .refl Sound (· = id) _
  cases a with
  | dispatch recipient r =>
    have apart : r.requestId ≠ id := fun same => elsewhere.request (congrArg some same)
    exact Coordinator.dispatch_bypasses (c := s.office.coordinator) retains _ recipient apart s.world
  | broadcast recipients payload deadline => exact spares_broadcast retains elsewhere
  | relay seeds payload marker deadline => exact spares_relay retains elsewhere
  | openStream name recipients payload deadline =>
    exact spares_openStream fun more _ => elsewhere.fresh more
  | nextEvent name => exact aside.spares_used retains (elsewhere.stream name rfl) .poll
  | glance name looks => exact aside.spares_used retains (elsewhere.stream name rfl) (.glance looks)
  | dropStream name => exact ⟨still _ (journal_abandoned name s s.world), by simp⟩
  | openChannel name topic recipients => exact spares_openChannel retains name topic recipients
  | publishOn name payload => exact aside.spares_publishOn retains elsewhere
  | receiveFrom name budget => exact aside.spares_receiveFrom retains name budget
  | dropChannel name => exact ⟨still _ (journal_returned name s s.world), by simp⟩
  | sendTo recipient payload budget =>
    exact (World.elapses_send recipient (s.world.newRequest payload).1
      ((s.world.newRequest payload).2.now + budget) (s.world.newRequest payload).2).bypasses retains
        (· = id)
  | register recipient participant => trivial
  | unregister recipient => trivial
  | setOffline offline => trivial
  | sleep ms => exact (World.elapses_wait ms s.world).bypasses retains (· = id)

/-- Every act that is not about a request leaves it alone, and leaves everything aside. -/
theorem Aside.act (aside : s.Aside others id) (retains : s.office.recorder.Retains Sound)
    (elsewhere : a.Aside others id s) :
    (s.act a).Aside others id ∧ s.world.journal.Bypasses Sound (· = id) (s.act a).world.journal := by
  rw [act_eq_put]
  exact aside.put (s.follows_effect a) (aside.spares retains elsewhere)

/-- Acts none of which brings a request, or takes a new identifier for it. -/
structure Foreign (id : RequestId) (acts : List Act) (s : Session) : Prop where
  request : ∀ a ∈ acts, a.request? ≠ some id
  fresh : ∀ n, s.world.requestCount ≤ n → n < (acts.foldl Session.act s).world.requestCount →
    RequestId.generated n ≠ id

theorem Foreign.head {acts : List Act} (foreign : Foreign id (a :: acts) s)
    (stream : ∀ name, a.stream? = some name → others name) : a.Aside others id s := by
  refine ⟨stream, foreign.request a List.mem_cons_self, ?_⟩
  intro more
  exact foreign.fresh _ (Nat.le_refl _) (Nat.lt_of_lt_of_le more (requestCount_run acts (s.act a)))

theorem Foreign.tail {acts : List Act} (foreign : Foreign id (a :: acts) s) :
    Foreign id acts (s.act a) := by
  refine ⟨fun b member => foreign.request b (List.mem_cons_of_mem a member), ?_⟩
  intro n least most
  exact foreign.fresh n (Nat.le_trans (requestCount_act s a) least) most

theorem Aside.run {acts : List Act} (aside : s.Aside others id)
    (retains : s.office.recorder.Retains Sound)
    (streams : ∀ a ∈ acts, ∀ name, a.stream? = some name → others name)
    (foreign : Foreign id acts s) :
    (acts.foldl Session.act s).Aside others id ∧
      s.world.journal.Bypasses Sound (· = id) (acts.foldl Session.act s).world.journal := by
  induction acts generalizing s with
  | nil => exact ⟨aside, .refl Sound (· = id) _⟩
  | cons a rest ih =>
    obtain ⟨still, first⟩ := aside.act retains (foreign.head (streams a List.mem_cons_self))
    obtain ⟨last, later⟩ := ih still (office_act s a ▸ retains)
      (fun b member => streams b (List.mem_cons_of_mem a member)) foreign.tail
    exact ⟨last, first.trans later⟩

variable {change : RecipientId → Participant → Participant}

def altered (change : RecipientId → Participant → Participant) (s : Session) : Session :=
  { s with world := s.world.altered change }

/-- The act with another participant, if one joins. -/
def Act.altered (change : RecipientId → Participant → Participant) : Act → Act
  | .register recipient participant => .register recipient (change recipient participant)
  | a => a

def Effect.altered (change : RecipientId → Participant → Participant) : Effect → Effect
  | .world w => .world (w.altered change)
  | .stream name later w => .stream name later (w.altered change)
  | .channel name later w => .channel name later (w.altered change)
  | .joins recipient participant => .joins recipient (change recipient participant)
  | .leaves recipient => .leaves recipient
  | .offline away => .offline away

theorem altered_changeNetwork {there here : Network → Network}
    (alike : ∀ n : Network, there { n with registry := n.registry.altered change } =
      { here n with registry := (here n).registry.altered change }) (s : Session) :
    (s.altered change).changeNetwork there = (s.changeNetwork here).altered change := by
  obtain ⟨office, ⟨journal, transport, calls, requestCount, patience, stuck⟩, streams, channels⟩ := s
  cases transport with
  | network n =>
    simp only [Session.changeNetwork, altered, World.altered, Transport.altered, alike]
  | playback p => rfl

theorem Aside.altered_settle (aside : s.Aside (fun _ => True) id) (shows : ShowsOnlyOn id change) :
    (s.altered change).settle = s.settle.altered change := by
  have registry : (s.altered change).world.transport.registry =
      s.world.transport.registry.altered change := Transport.registry_altered change _
  have streams : (s.streams.map fun e => (e.1, e.2.settle (s.world.transport.registry.altered change)
        s.world.clock.moment s.world.patience)) =
      s.streams.map fun e => (e.1, e.2.settle s.world.transport.registry s.world.clock.moment
        s.world.patience) :=
    List.map_congr_left fun e member => congrArg (Prod.mk e.1)
      ((aside.streams e member trivial).2.settle shows _ _ _).1
  have channels : (s.channels.map fun e => (e.1, e.2.settle
        (s.world.transport.registry.altered change) s.world.clock.moment s.world.patience)) =
      s.channels.map fun e => (e.1, e.2.settle s.world.transport.registry s.world.clock.moment
        s.world.patience) :=
    List.map_congr_left fun e member => congrArg (Prod.mk e.1)
      ((aside.channels e member).settle shows _ _ _).1
  have world : ({ s.world.altered change with
      transport := (s.world.transport.altered change).settle s.world.clock.moment s.world.patience } :
        World) = s.settle.world.altered change :=
    congrArg (fun t => { s.world with transport := t })
      (s.world.transport.settle_altered shows aside.released s.world.clock.moment s.world.patience)
  simp only [Session.settle, registry]
  exact congr (congrArg₂ (Session.mk s.office) world streams) channels

theorem abandoned_altered (change : RecipientId → Participant → Participant) (name : String)
    (s : Session) (w : World) :
    (s.altered change).abandoned name (w.altered change) = (s.abandoned name w).altered change := by
  unfold abandoned
  rw [show (s.altered change).stream? name = s.stream? name from rfl]
  cases s.stream? name with
  | none => rfl
  | some stream => exact stream.abandon_altered change w

theorem returned_altered (change : RecipientId → Participant → Participant) (name : String)
    (s : Session) (w : World) :
    (s.altered change).returned name (w.altered change) = (s.returned name w).altered change := by
  unfold returned
  rw [show (s.altered change).channel? name = s.channel? name from rfl]
  cases s.channel? name with
  | none => rfl
  | some c => exact w.release_altered change c

theorem begun_altered (change : RecipientId → Participant → Participant) (name : String)
    (s : Session) (o : Except Error BroadcastStream × World) :
    (s.altered change).begun name (o.1, o.2.altered change) = (s.begun name o).altered change := by
  obtain ⟨_ | stream, w⟩ := o
  · rfl
  · exact congrArg (Effect.stream name (some stream)) (abandoned_altered change name s w)

theorem taken_altered (change : RecipientId → Participant → Participant) (name : String)
    (s : Session) (o : Except Error Channel × World) :
    (s.altered change).taken name (o.1, o.2.altered change) = (s.taken name o).altered change := by
  obtain ⟨_ | c, w⟩ := o
  · rfl
  · exact congrArg (Effect.channel name (some c)) (returned_altered change name s w)

theorem published_altered (change : RecipientId → Participant → Participant) (name : String)
    (o : Except Error Channel × World) :
    published name (o.1, o.2.altered change) = (published name o).altered change := by
  obtain ⟨_ | c, w⟩ := o <;> rfl

theorem Aside.used_altered (aside : s.Aside (fun _ => True) id) (shows : ShowsOnlyOn id change)
    (name : String) (use : StreamUse) :
    (s.altered change).used name use = (s.used name use).altered change := by
  unfold used
  rw [show (s.altered change).stream? name = s.stream? name from rfl]
  cases named : s.stream? name with
  | none => rfl
  | some stream =>
    obtain ⟨apart, clear⟩ := aside.stream named trivial
    obtain ⟨same, -⟩ := stream.use_altered shows apart clear s.world use
    exact congrArg (fun o : BroadcastStream × World => Effect.stream name (some o.1) o.2) same

theorem Act.Aside.broadcast_altered {recipients : List RecipientId} {payload : Json}
    {deadline : Nat} (elsewhere : Act.Aside others id (.broadcast recipients payload deadline) s)
    (shows : ShowsOnlyOn id change) :
    s.office.coordinator.broadcast recipients payload deadline (s.world.altered change) =
      ((s.office.coordinator.broadcast recipients payload deadline s.world).1,
        (s.office.coordinator.broadcast recipients payload deadline s.world).2.altered change) := by
  cases refused : broadcastRefusal? recipients payload deadline with
  | some refusal => simp only [Coordinator.broadcast, refused]
  | none =>
    exact Coordinator.broadcast_altered _ shows recipients payload deadline
      (elsewhere.fresh_broadcast refused)

theorem Act.Aside.relay_altered {seeds : List RecipientId} {payload : Json} {marker : String}
    {deadline : Nat} (elsewhere : Act.Aside others id (.relay seeds payload marker deadline) s)
    (shows : ShowsOnlyOn id change) :
    s.office.coordinator.relay seeds payload marker deadline (s.world.altered change) =
      ((s.office.coordinator.relay seeds payload marker deadline s.world).1,
        (s.office.coordinator.relay seeds payload marker deadline s.world).2.altered change) := by
  cases refused : relayRefusal? seeds payload marker deadline with
  | some refusal => simp only [Coordinator.relay_of_refused _ refused]
  | none =>
    exact Coordinator.relay_altered _ shows seeds payload marker deadline
      (elsewhere.fresh_relay refused)

theorem stream_altered (change : RecipientId → Participant → Participant) (c : Coordinator)
    (recipients : List RecipientId) (payload : Json) (deadline : Nat) (w : World) :
    c.stream recipients payload deadline (w.altered change) =
      ((c.stream recipients payload deadline w).1,
        (c.stream recipients payload deadline w).2.altered change) := by
  unfold Coordinator.stream
  cases broadcastRefusal? recipients payload deadline <;> rfl

theorem Act.Aside.publishOn_altered {payload : Json}
    (elsewhere : Act.Aside others id (.publishOn name payload) s) (shows : ShowsOnlyOn id change) :
    (s.altered change).effect (.publishOn name payload) =
      (s.effect (.publishOn name payload)).altered change := by
  simp only [effect]
  rw [show (s.altered change).channel? name = s.channel? name from rfl]
  cases named : s.channel? name with
  | none => rfl
  | some c =>
    have apart : (s.world.newRequest payload).1.requestId ≠ id := elsewhere.fresh_publishOn named
    have again := World.publish_altered shows apart c (s.world.newRequest payload).2
    exact (congrArg (published name) again).trans (published_altered change name _)

theorem Aside.receiveFrom_altered (aside : s.Aside (fun _ => True) id)
    (shows : ShowsOnlyOn id change) (name : String) (budget : Nat) :
    (s.altered change).effect (.receiveFrom name budget) =
      (s.effect (.receiveFrom name budget)).altered change := by
  simp only [effect]
  rw [show (s.altered change).channel? name = s.channel? name from rfl]
  cases named : s.channel? name with
  | none => rfl
  | some c =>
    obtain ⟨same, -⟩ := World.receive_altered shows (aside.channels _ (mem_of_lookup named))
      (s.world.now + budget) s.world
    exact congrArg (fun o : Reading × Channel × World =>
      Effect.channel name (some o.2.1) o.2.2) same

/--
Where everything is aside, an act that is not about the request comes to the same whatever the
participants would do about it.
-/
theorem Aside.effect_altered (aside : s.Aside (fun _ => True) id) (shows : ShowsOnlyOn id change)
    (elsewhere : a.Aside (fun _ => True) id s) :
    (s.altered change).effect (a.altered change) = (s.effect a).altered change := by
  cases a with
  | dispatch recipient r =>
    have apart : r.requestId ≠ id := fun same => elsewhere.request (congrArg some same)
    exact congrArg (fun o => Effect.world o.2)
      (Coordinator.dispatch_altered _ shows _ recipient apart s.world)
  | broadcast recipients payload deadline =>
    exact congrArg (fun o => Effect.world o.2) (elsewhere.broadcast_altered shows)
  | relay seeds payload marker deadline =>
    exact congrArg (fun o => Effect.world o.2) (elsewhere.relay_altered shows)
  | openStream name recipients payload deadline =>
    exact (congrArg ((s.altered change).begun name) (stream_altered change _ recipients payload
      deadline s.world)).trans (begun_altered change name s _)
  | nextEvent name => exact aside.used_altered shows name .poll
  | glance name looks => exact aside.used_altered shows name (.glance looks)
  | dropStream name =>
    exact congrArg (Effect.stream name none) (abandoned_altered change name s s.world)
  | openChannel name topic recipients =>
    exact (congrArg ((s.altered change).taken name)
      (World.openChannel_altered id change topic recipients s.world).1).trans
        (taken_altered change name s _)
  | publishOn name payload => exact elsewhere.publishOn_altered shows
  | receiveFrom name budget => exact aside.receiveFrom_altered shows name budget
  | dropChannel name =>
    exact congrArg (Effect.channel name none) (returned_altered change name s s.world)
  | sendTo recipient payload budget =>
    have apart : (s.world.newRequest payload).1.requestId ≠ id := elsewhere.fresh_sendTo
    exact congrArg (fun o => Effect.world o.2) (World.send_altered shows apart recipient
      ((s.world.newRequest payload).2.now + budget) (s.world.newRequest payload).2)
  | register recipient participant => rfl
  | unregister recipient => rfl
  | setOffline offline => rfl
  | sleep ms => rfl

theorem Aside.put_altered (aside : s.Aside (fun _ => True) id) (shows : ShowsOnlyOn id change)
    (e : Effect) : (s.altered change).put (e.altered change) = (s.put e).altered change := by
  cases e with
  | world w => rfl
  | stream name later w => rfl
  | channel name later w => rfl
  | joins recipient participant =>
    simp only [Effect.altered, Session.put, register, aside.altered_settle shows]
    exact altered_changeNetwork (fun n => by simp only [Registry.insert_altered]) s.settle
  | leaves recipient =>
    simp only [Effect.altered, Session.put, unregister, aside.altered_settle shows]
    exact altered_changeNetwork (fun n => by simp only [Registry.erase_altered]) s.settle
  | offline offline => exact altered_changeNetwork (fun n => rfl) s

theorem Aside.altered_act (aside : s.Aside (fun _ => True) id) (shows : ShowsOnlyOn id change)
    (elsewhere : a.Aside (fun _ => True) id s) :
    (s.altered change).act (a.altered change) = (s.act a).altered change := by
  rw [act_eq_put, act_eq_put, aside.effect_altered shows elsewhere, aside.put_altered shows]

theorem Aside.altered_run {acts : List Act} (aside : s.Aside (fun _ => True) id)
    (retains : s.office.recorder.Retains Sound) (shows : ShowsOnlyOn id change)
    (foreign : Foreign id acts s) :
    (acts.map (Act.altered change)).foldl Session.act (s.altered change) =
      (acts.foldl Session.act s).altered change := by
  induction acts generalizing s with
  | nil => rfl
  | cons a rest ih =>
    have elsewhere : a.Aside (fun _ => True) id s := foreign.head fun _ _ => trivial
    obtain ⟨still, -⟩ := aside.act retains elsewhere
    rw [List.map_cons, List.foldl_cons, List.foldl_cons, aside.altered_act shows elsewhere]
    exact ih still (office_act s a ▸ retains) foreign.tail

end Session

end RollCall
