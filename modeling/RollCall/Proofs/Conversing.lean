import RollCall.Broadcast.Stream
import RollCall.Proofs.Relaying
import RollCall.Proofs.Standing

set_option autoImplicit false

/-!
What a call does with its channel. It opens one channel, publishes its request on it once, reads it
until a read fails at most, and gives it back; nothing of this is done again. A stream holds its
channel from its first poll until it ends or is given up, however often and however long it is
polled.
-/
namespace RollCall

/-- The channels that were given back before are left alone, and those given back since are
closed. -/
def Transport.Returns (t t' : Transport) : Prop :=
  ∃ hubs : List Hub, t'.released = hubs.map Hub.close ++ t.released

namespace Transport.Returns

variable {t t' t'' : Transport}

theorem refl (t : Transport) : t.Returns t := ⟨[], rfl⟩

theorem trans (first : t.Returns t') (second : t'.Returns t'') : t.Returns t'' := by
  obtain ⟨hubs, before⟩ := first
  obtain ⟨later, after⟩ := second
  refine ⟨later ++ hubs, ?_⟩
  rw [after, before, List.map_append, List.append_assoc]

theorem release (c : Channel) (t : Transport) : t.Returns (t.release c) := by
  cases t with
  | network n =>
    refine ⟨c.hub?.toList, ?_⟩
    rw [← Option.toList_map]
    rfl
  | playback p => exact .refl _

end Transport.Returns

/--
The uses of a transport for one request, from the opening of the channel on, and whether the channel
is still held after them.
-/
inductive Conversation (t : Transport) (topic : String) (recipients : List RecipientId)
    (request : Request) : Bool → List Call → Prop
  | notOpened {e : Error} (failed : (t.openChannel topic recipients).1 = .error e) :
      Conversation t topic recipients request false [.open topic recipients]
  | notPublished {ch : Channel} {moment : Moment} {e : Error}
      (opened : (t.openChannel topic recipients).1 = .ok ch)
      (failed : (t.openChannel topic recipients).2.2.publish moment request ch = .error e) :
      Conversation t topic recipients request false
        [.open topic recipients, .publish request.payload, .release ch.unread]
  | reading {ch ch' : Channel} {moment : Moment} {readings : List Reading}
      (opened : (t.openChannel topic recipients).1 = .ok ch)
      (published : (t.openChannel topic recipients).2.2.publish moment request ch = .ok ch')
      (sound : ∀ r ∈ readings, r.fault? = none) :
      Conversation t topic recipients request true
        (.open topic recipients :: .publish request.payload :: readings.map Call.read)
  /-- Only the last read may have failed. -/
  | released {ch ch' : Channel} {moment : Moment} {readings : List Reading} (unread : Nat)
      (opened : (t.openChannel topic recipients).1 = .ok ch)
      (published : (t.openChannel topic recipients).2.2.publish moment request ch = .ok ch')
      (sound : ∀ r ∈ readings.dropLast, r.fault? = none) :
      Conversation t topic recipients request false
        (.open topic recipients :: .publish request.payload ::
          (readings.map Call.read ++ [.release unread]))

namespace Conversation

variable {t : Transport} {topic : String} {recipients : List RecipientId} {request : Request}
  {log : List Call}

theorem read (conversation : Conversation t topic recipients request true log) {r : Reading}
    (sound : r.fault? = none) :
    Conversation t topic recipients request true (log ++ [.read r]) := by
  cases conversation with
  | @reading ch ch' moment readings opened published soundBefore =>
    have whole : readings.map Call.read ++ [Call.read r] = (readings ++ [r]).map Call.read := by
      simp
    rw [List.cons_append, List.cons_append, whole]
    apply reading opened published
    intro s member
    rcases List.mem_append.1 member with before | last
    · exact soundBefore s before
    · rw [List.mem_singleton.1 last]
      exact sound

/-- The channel is given back after any readings, the last of which may have failed. -/
theorem release (conversation : Conversation t topic recipients request true log)
    (readings : List Reading) (sound : ∀ r ∈ readings.dropLast, r.fault? = none) (unread : Nat) :
    Conversation t topic recipients request false
      (log ++ (readings.map Call.read ++ [.release unread])) := by
  cases conversation with
  | @reading ch ch' moment before opened published soundBefore =>
    rw [List.cons_append, List.cons_append, ← List.append_assoc, ← List.map_append]
    apply released unread opened published
    intro r member
    by_cases nothing : readings = []
    · rw [nothing, List.append_nil] at member
      exact soundBefore r (List.mem_of_mem_dropLast member)
    · rw [List.dropLast_append_of_ne_nil nothing] at member
      rcases List.mem_append.1 member with first | later
      · exact soundBefore r first
      · exact sound r later

end Conversation

namespace World

def HasOpen (count : Nat) (w : World) : Prop :=
  ∃ n, w.transport = .network n ∧ n.openChannels = count

/--
From one world to another a transport is used as logged, by one who holds a channel, or none, before
and after.
-/
structure Uses (used : List Call) (before after : Bool) (w w' : World) : Prop where
  calls : w'.calls = used.reverse ++ w.calls
  returned : w.transport.Returns w'.transport
  channels : ∀ count, w.HasOpen (count + before.toNat) → w'.HasOpen (count + after.toNat)

/-- These uses go on with the conversation that came before them. -/
structure CarriesOn (used : List Call) (before after : Bool) (w w' : World) : Prop
    extends Uses used before after w w' where
  continues : ∀ {t : Transport} {topic : String} {recipients : List RecipientId} {request : Request}
    {log : List Call}, Conversation t topic recipients request before log →
      Conversation t topic recipients request after (log ++ used)

variable {w w' w'' : World} {used later : List Call} {before held after : Bool} {c : Channel}

theorem Uses.trans (first : Uses used before held w w') (second : Uses later held after w' w'') :
    Uses (used ++ later) before after w w'' := by
  refine ⟨?_, first.returned.trans second.returned,
    fun count opened => second.channels count (first.channels count opened)⟩
  rw [second.calls, first.calls, List.reverse_append, List.append_assoc]

theorem CarriesOn.trans (first : CarriesOn used before held w w')
    (second : CarriesOn later held after w' w'') :
    CarriesOn (used ++ later) before after w w'' := by
  refine ⟨first.toUses.trans second.toUses, fun conversation => ?_⟩
  rw [← List.append_assoc]
  exact second.continues (first.continues conversation)

theorem Uses.of_same (held : Bool) (calls : w'.calls = w.calls)
    (transport : w'.transport = w.transport) : Uses [] held held w w' := by
  refine ⟨calls, transport ▸ .refl _, fun count opened => ?_⟩
  unfold HasOpen at *
  rw [transport]
  exact opened

theorem CarriesOn.of_same (held : Bool) (calls : w'.calls = w.calls)
    (transport : w'.transport = w.transport) : CarriesOn [] held held w w' := by
  refine ⟨.of_same held calls transport, fun conversation => ?_⟩
  rw [List.append_nil]
  exact conversation

theorem carriesOn_endStep (coordinator : Coordinator) (id : RequestId) (step : Option StepId)
    (success : Bool) (held : Bool) (w : World) :
    CarriesOn [] held held w (coordinator.endStep id step success w) :=
  .of_same held rfl rfl

theorem uses_receive (held : Bool) {c' : Channel} {limit : Nat} {r : Reading}
    (received : w.receive c limit = (r, c', w')) : Uses [.read r] held held w w' := by
  cases received
  exact ⟨rfl, .refl _, fun _ opened => opened⟩

theorem carriesOn_receive {c' : Channel} {limit : Nat} {r : Reading}
    (received : w.receive c limit = (r, c', w')) (sound : r.fault? = none) :
    CarriesOn [.read r] true true w w' :=
  ⟨uses_receive true received, fun conversation => conversation.read sound⟩

/-- A channel that is given back is not open any more; no other is closed. -/
theorem uses_release (c : Channel) (w : World) :
    Uses [.release c.unread] true false w (w.release c) := by
  refine ⟨rfl, .release c _, fun count opened => ?_⟩
  obtain ⟨n, network, many⟩ := opened
  refine ⟨n.release c, ?_, ?_⟩
  · show w.transport.release c = _
    rw [network]
    rfl
  · -- the channel given back is one of those counted, so the subtraction takes one off
    show n.openChannels - 1 = count
    rw [many]
    exact Nat.add_sub_cancel count 1

theorem carriesOn_release (c : Channel) (w : World) :
    CarriesOn [.release c.unread] true false w (w.release c) :=
  ⟨uses_release c w, fun conversation => conversation.release [] (by simp) c.unread⟩

/-- A channel on which a read failed is given back at once. -/
theorem carriesOn_broken {c' : Channel} {limit : Nat} {r : Reading}
    (received : w.receive c limit = (r, c', w')) :
    CarriesOn [.read r, .release c'.unread] true false w (w'.release c') :=
  ⟨(uses_receive true received).trans (uses_release c' w'),
    fun conversation => conversation.release [r] (by simp) c'.unread⟩

/-- A channel is open if opening it succeeds, and otherwise none. -/
theorem uses_openChannel {topic : String} {recipients : List RecipientId}
    {outcome : Except Error Channel} (opening : w.openChannel topic recipients = (outcome, w')) :
    Uses [.open topic recipients] false outcome.isOk w w' ∧
      (w.transport.openChannel topic recipients).1 = outcome ∧
      w'.transport = (w.transport.openChannel topic recipients).2.2 := by
  have tried := congrArg Prod.fst opening
  have left := congrArg Prod.snd opening
  dsimp only [openChannel] at tried left
  subst left
  refine ⟨⟨calls_await _ _, ?_, fun count opened => ?_⟩, tried, transport_await _ _⟩
  · rw [transport_await]
    show w.transport.Returns (w.transport.openChannel topic recipients).2.2
    cases w.transport with
    | playback p => exact .refl _
    | network n =>
      refine ⟨[], ?_⟩
      simp only [Transport.openChannel, Network.openHub]
      split <;> rfl
  obtain ⟨n, network, many⟩ := opened
  rw [network] at tried
  refine ⟨(n.openHub topic recipients).2, ?_, ?_⟩
  · refine (transport_await _ _).trans ?_
    rw [network]
    rfl
  · dsimp only [Transport.openChannel, Network.openHub] at tried ⊢
    subst tried
    by_cases offline : n.offline = true
    · rw [if_pos offline]
      exact many
    · rw [if_neg offline]
      show n.openChannels + 1 = count + 1
      rw [many]
      rfl

theorem uses_publish (held : Bool) {request : Request} {outcome : Except Error Channel}
    (publishing : w.publish request c = (outcome, w')) :
    Uses [.publish request.payload] held held w w' ∧
      w.transport.publish w.clock.moment request c = outcome := by
  cases publishing
  have same := transport_await c.publishDelay (w.log (.publish request.payload))
  refine ⟨⟨calls_await _ _, same ▸ .refl _, fun _ opened => ?_⟩, rfl⟩
  obtain ⟨n, network, many⟩ := opened
  exact ⟨n, (transport_await _ _).trans network, many⟩

/-- Putting a request on a channel begins a conversation; if that fails no channel is held. -/
theorem converses_connect {topic : String} {recipients : List RecipientId} {request : Request}
    {outcome : Except ConnectFault Channel}
    (connecting : w.connect topic recipients request = (outcome, w')) :
    ∃ used, Uses used false outcome.isOk w w' ∧
      Conversation w.transport topic recipients request outcome.isOk used := by
  unfold connect at connecting
  rcases opening : w.openChannel topic recipients with ⟨channel, v⟩
  obtain ⟨opens, tried, left⟩ := uses_openChannel opening
  rw [opening] at connecting
  cases channel with
  | error e =>
    cases connecting
    exact ⟨_, opens, .notOpened tried⟩
  | ok ch =>
    rcases publishing : v.publish request ch with ⟨channel', u⟩
    obtain ⟨publishes, put⟩ := uses_publish true publishing
    rw [left] at put
    dsimp only at connecting
    rw [publishing] at connecting
    cases channel' with
    | error e =>
      cases connecting
      exact ⟨_, (opens.trans publishes).trans (uses_release ch u), .notPublished tried put⟩
    | ok ch' =>
      cases connecting
      have unread : ∀ r ∈ ([] : List Reading), r.fault? = none := by simp
      exact ⟨_, opens.trans publishes, .reading tried put unread⟩

end World

namespace FanOut

variable {f f' : FanOut} {w w' : World} {used : List Call} {r : Option Resolution}
  {rs : List Resolution}

def holds (f : FanOut) : Bool := f.channel.isSome

theorem Awaits.holds {c : Channel} (awaits : f.Awaits w c) : f.holds = true := by
  rw [FanOut.holds, awaits.channel]
  rfl

theorem Step.carriesOn (step : Step f w used r f' w') :
    w.CarriesOn used f.holds f'.holds w' := by
  cases step with
  | refused setup pending => exact World.carriesOn_endStep _ _ _ _ _ w
  | cutOff awaits read =>
    rw [awaits.holds]
    exact World.carriesOn_receive read rfl
  | idle awaits read =>
    rw [awaits.holds]
    exact World.carriesOn_receive read rfl
  | broken awaits read =>
    rw [awaits.holds]
    exact World.carriesOn_broken read
  | ignored awaits read unknown =>
    rw [awaits.holds]
    exact World.carriesOn_receive read rfl
  | @reported w' c c' m step awaits read known =>
    rw [awaits.holds]
    exact (World.carriesOn_receive read rfl).trans
      (World.carriesOn_endStep f.coordinator f.requestId step _ true w')

theorem Run.carriesOn (run : Run f w used rs f' w') : w.CarriesOn used f.holds f'.holds w' := by
  induction run with
  | refl f w => exact .of_same f.holds rfl rfl
  | step first _ ih => exact first.carriesOn.trans ih

/-- A fan-out that gives its channel back, if it holds one. -/
theorem releaseChannel_carriesOn (f : FanOut) (w : World) :
    ∃ used, w.CarriesOn used f.holds false (f.releaseChannel w).2 ∧
      (f.releaseChannel w).1.holds = false := by
  unfold releaseChannel holds
  cases channel : f.channel with
  | none => exact ⟨[], .of_same false rfl rfl, by simp [channel]⟩
  | some c => exact ⟨_, World.carriesOn_release c w, rfl⟩

theorem finish_carriesOn (f : FanOut) (w : World) :
    ∃ used, w.CarriesOn used f.holds false (f.finish w).2 := by
  obtain ⟨used, released, -⟩ := f.releaseChannel_carriesOn w
  exact ⟨_, released.trans (World.carriesOn_endStep _ _ _ _ false _)⟩

/-- A fan-out sets out by putting its request on a channel. -/
theorem start_converses {c : Coordinator} {recipients : List RecipientId} {request : Request}
    {wait : Nat} (started : start c recipients request wait w = (f, w')) :
    ∃ used, w.Uses used false f.holds w' ∧
      Conversation w.transport (c.topic "broadcast" request.requestId) recipients request f.holds
        used := by
  rcases connecting : w.connect (c.topic "broadcast" request.requestId) recipients request with
    ⟨outcome, v⟩
  obtain ⟨used, uses, conversation⟩ := World.converses_connect connecting
  simp only [start, connecting] at started
  cases started
  have holding : outcome.toOption.isSome = outcome.isOk := by
    cases outcome <;> rfl
  unfold holds
  rw [holding]
  exact ⟨used, ⟨uses.calls, uses.returned, uses.channels⟩, conversation⟩

end FanOut

namespace Coordinator

variable (c : Coordinator) {recipients : List RecipientId} {payload : Json} {marker : String}
  {deadline : Nat}

/-- A broadcast is one conversation with its distinct recipients, over when it returns. -/
theorem broadcast_converses (w : World)
    (accepted : broadcastRefusal? recipients payload deadline = none) :
    ∃ o w' used, c.broadcast recipients payload deadline w = (.ok o, w') ∧
      w.Uses used false false w' ∧
      Conversation w.transport (c.topic "broadcast" o.requestId) (distinct recipients)
        ⟨o.requestId, payload⟩ false used := by
  rcases started : c.setOut recipients payload deadline w with ⟨f, v⟩
  rcases gathered : f.gather (f.slots.length + 1) v with ⟨reports, f', v'⟩
  obtain ⟨log, run⟩ := FanOut.gather_run (f.slots.length + 1) f v
  rw [gathered] at run
  rw [setOut_eq] at started
  obtain ⟨first, begins, conversation⟩ := FanOut.start_converses started
  obtain ⟨last, ends⟩ := f'.finish_carriesOn v'
  have rest := run.carriesOn.trans ends
  have same : f'.requestId = (w.newRequest payload).1.requestId := by
    have begun : f = (c.setOut recipients payload deadline w).1 :=
      (congrArg Prod.fst started).symm
    rw [run.sameCall.requestId, begun]
    rfl
  refine ⟨_, _, first ++ (log ++ last), broadcast_eq c w accepted started gathered, ?_, ?_⟩
  · have asked : w.Uses [] false false (w.newRequest payload).2 := .of_same false rfl rfl
    exact asked.trans (begins.trans rest.toUses)
  · have whole := rest.continues conversation
    rw [BroadcastOutcome.requestId_ofReports, same]
    exact whole

end Coordinator

namespace Watch

variable {n : Nat} {s s' : Watch} {ch ch' : Channel} {w w' : World} {log : List Reading}

theorem Reads.uses (reads : Reads n s ch w log s' ch' w') (held : Bool) :
    w.Uses (log.map Call.read) held held w' := by
  have seen (s : Watch) (m : Reply) (w : World) : w.Uses [] held held (s.see m w).2 :=
    .of_same held rfl rfl
  induction reads with
  | weary s c w => exact .of_same held rfl rfl
  | late => exact .of_same held rfl rfl
  | cutOff _ read => exact World.uses_receive held read
  | broken _ read => exact World.uses_receive held read
  | marked _ read => exact (World.uses_receive held read).trans (seen _ _ _)
  | idle _ read _ ih => exact (World.uses_receive held read).trans ih
  | hop _ read _ _ ih => exact (World.uses_receive held read).trans ((seen _ _ _).trans ih)

/-- Only the last read may have failed. -/
theorem Reads.sound (reads : Reads n s ch w log s' ch' w') :
    ∀ r ∈ log.dropLast, r.fault? = none := by
  have further {r : Reading} {log : List Reading} (sound : r.fault? = none)
      (later : ∀ x ∈ log.dropLast, x.fault? = none) :
      ∀ x ∈ (r :: log).dropLast, x.fault? = none := by
    cases log with
    | nil => simp
    | cons y rest => exact List.forall_mem_cons.2 ⟨sound, later⟩
  induction reads with
  | weary => simp
  | late => simp
  | cutOff => simp
  | broken => simp
  | marked => simp
  | idle _ _ _ ih => exact further rfl ih
  | hop _ _ _ _ ih => exact further rfl ih

end Watch

namespace Coordinator

variable (c : Coordinator) {seeds : List RecipientId} {payload : Json} {marker : String}
  {deadline : Nat}

/-- A relay is one conversation with its seeds, over when it returns. -/
theorem relay_converses (w : World)
    (accepted : relayRefusal? seeds payload marker deadline = none) :
    ∃ r w' used, c.relay seeds payload marker deadline w = (.ok r, w') ∧
      w.Uses used false false w' ∧
      Conversation w.transport (c.topic "relay" r.requestId) seeds ⟨r.requestId, payload⟩ false
        used := by
  rcases started : c.startSteps (w.newRequest payload).1.requestId [c.label]
    (w.newRequest payload).2 with ⟨steps, v⟩
  rcases connecting : v.connect (c.topic "relay" (w.newRequest payload).1.requestId) seeds
    (w.newRequest payload).1 with ⟨outcome, u⟩
  have seeded : c.seed seeds payload w = (outcome, steps.head?.join, u) := by
    simp only [seed, started, connecting]
  have asked : w.Uses [] false false v := by
    cases started
    exact .of_same false rfl rfl
  have same : v.transport = w.transport := by
    cases started
    rfl
  obtain ⟨used, begins, conversation⟩ := World.converses_connect connecting
  rw [same] at conversation
  cases outcome with
  | error fault =>
    refine ⟨_, _, used, c.relay_of_fault accepted seeded, ?_, conversation⟩
    have ends := World.carriesOn_endStep c (w.newRequest payload).1.requestId steps.head?.join false
      false u
    have whole := asked.trans (begins.trans ends.toUses)
    rw [List.append_nil] at whole
    exact whole
  | ok ch =>
    obtain ⟨log, s, ch', w'', elapsed, reads, done⟩ :=
      c.relay_reads accepted seeded
    refine ⟨_, _, used ++ (log.map Call.read ++ [.release ch'.unread]), done, ?_, ?_⟩
    · have ends := World.carriesOn_endStep c (w.newRequest payload).1.requestId steps.head?.join
        s.terminal.isSome false (w''.release ch')
      have watched : u.Uses [] true true u.wallClock.2 := .of_same true rfl rfl
      have rest := watched.trans ((reads.uses true).trans (World.uses_release ch' w''))
      have whole := asked.trans (begins.trans (rest.trans ends.toUses))
      rw [List.append_nil] at whole
      exact whole
    · have id : s.requestId = (w.newRequest payload).1.requestId := reads.sameRelay.requestId
      have whole := conversation.release log reads.sound ch'.unread
      show Conversation _ (c.topic "relay" s.requestId) seeds ⟨s.requestId, payload⟩ false _
      rw [id]
      exact whole

end Coordinator

namespace FanOut

variable {f f' : FanOut} {w w' : World}

/-- A wait for a report that is given up after so many looks at the channel. -/
def linger (looks : Nat) (f : FanOut) (w : World) : FanOut × World :=
  match f.setupFailure with
  | some _ => (f, w)
  | none => (f.readOn looks w).2

theorem linger_carriesOn (looks : Nat) (f : FanOut) (w : World) :
    ∃ used, w.CarriesOn used f.holds (f.linger looks w).1.holds (f.linger looks w).2 := by
  unfold linger
  cases setup : f.setupFailure with
  | some failure => exact ⟨[], .of_same f.holds rfl rfl⟩
  | none =>
    obtain ⟨used, run⟩ := readOn_run looks f w setup
    exact ⟨used, run.carriesOn⟩

end FanOut

def StreamStage.holds : StreamStage → Bool
  | .running f => f.holds
  | _ => false

/-- The event after the last report comes when the channel has been given back. -/
theorem FanOut.nextEvent_carriesOn (f : FanOut) (w : World) :
    ∃ used, w.CarriesOn used f.holds (f.nextEvent w).2.1.holds (f.nextEvent w).2.2 := by
  obtain ⟨used, run⟩ := next_run f w
  rcases advanced : f.next w with ⟨_ | r, f', w'⟩
  · rw [advanced] at run
    obtain ⟨last, ends⟩ := f'.finish_carriesOn w'
    have whole := run.carriesOn.trans ends
    simp only [nextEvent, advanced]
    split
    · exact ⟨_, whole⟩
    · exact ⟨_, whole⟩
  · rw [advanced] at run
    simp only [nextEvent, advanced]
    exact ⟨_, run.carriesOn⟩

inductive StreamUse where
  | poll
  /-- A poll that is given up after so many looks at the channel. -/
  | glance (looks : Nat)

namespace BroadcastStream

def holds (s : BroadcastStream) : Bool := s.stage.holds

def use (s : BroadcastStream) (w : World) : StreamUse → BroadcastStream × World
  | .poll => (s.next w).2
  | .glance looks =>
    match s.stage with
    | .idle c recipients request deadline =>
      let (f, w) := FanOut.start c recipients request deadline w
      let (f, w) := f.linger looks w
      ({ s with stage := .running f }, w)
    | .running f =>
      let (f, w) := f.linger looks w
      ({ s with stage := .running f }, w)
    | .ended => (s, w)

def Begun (s : BroadcastStream) : Prop :=
  ∀ c recipients request deadline, s.stage ≠ .idle c recipients request deadline

variable {s s' : BroadcastStream} {w w' : World} {c : Coordinator} {recipients : List RecipientId}
  {request : Request} {deadline : Nat} {t : Transport} {log : List Call}

/-- The first poll puts the request on a channel and then does what every other poll does. -/
theorem use_idle (idle : s.stage = .idle c recipients request deadline) {f : FanOut}
    (started : FanOut.start c recipients request deadline w = (f, w')) (a : StreamUse) :
    s.use w a = BroadcastStream.use { s with stage := .running f } w' a := by
  cases a with
  | poll => simp only [use, next, idle, started]
  | glance looks => simp only [use, idle, started]

theorem use_running {f : FanOut} (running : s.stage = .running f) (w : World) (a : StreamUse) :
    (s.use w a).1.Begun ∧
      ∃ used, w.CarriesOn used f.holds (s.use w a).1.holds (s.use w a).2 := by
  cases a with
  | poll =>
    obtain ⟨used, carries⟩ := f.nextEvent_carriesOn w
    simp only [use, next, running]
    refine ⟨?_, used, carries⟩
    intro c recipients request deadline
    simp only [FanOut.nextEvent]
    rcases f.next w with ⟨_ | r, f', w'⟩
    · dsimp only
      split
      · simp
      · simp
    · simp
  | glance looks =>
    obtain ⟨used, carries⟩ := f.linger_carriesOn looks w
    simp only [use, running]
    exact ⟨by simp [Begun], used, carries⟩

/-- A stream that has begun goes on with its conversation, in whatever world it is polled. -/
theorem use_carriesOn (begun : s.Begun) (w : World) (a : StreamUse) :
    (s.use w a).1.Begun ∧
      ∃ used, w.CarriesOn used s.holds (s.use w a).1.holds (s.use w a).2 := by
  cases stage : s.stage with
  | idle c recipients request deadline => exact absurd stage (begun c recipients request deadline)
  | running f =>
    have same : s.holds = f.holds := congrArg StreamStage.holds stage
    rw [same]
    exact use_running stage w a
  | ended =>
    have nothing : s.use w a = (s, w) := by
      cases a with
      | poll => simp only [use, next, stage]
      | glance looks => simp only [use, stage]
    rw [nothing]
    exact ⟨begun, [], .of_same s.holds rfl rfl⟩

/-- The first poll begins a conversation in the world in which it is made. -/
theorem use_converses (idle : s.stage = .idle c recipients request deadline) (w : World)
    (a : StreamUse) :
    (s.use w a).1.Begun ∧ ∃ used, w.Uses used false (s.use w a).1.holds (s.use w a).2 ∧
      Conversation w.transport (c.topic "broadcast" request.requestId) recipients request
        (s.use w a).1.holds used := by
  rcases started : FanOut.start c recipients request deadline w with ⟨f, v⟩
  obtain ⟨first, begins, conversation⟩ := FanOut.start_converses started
  obtain ⟨begun, later, carries⟩ := use_running (s := { s with stage := .running f }) rfl v a
  rw [use_idle idle started]
  exact ⟨begun, _, begins.trans carries.toUses, carries.continues conversation⟩

/-- However far a stream has come, a poll opens a channel or gives one back, if it does either. -/
theorem use_uses (s : BroadcastStream) (w : World) (a : StreamUse) :
    ∃ used, w.Uses used s.holds (s.use w a).1.holds (s.use w a).2 := by
  by_cases begun : s.Begun
  · obtain ⟨-, used, carries⟩ := s.use_carriesOn begun w a
    exact ⟨used, carries.toUses⟩
  · unfold Begun at begun
    push Not at begun
    obtain ⟨c, recipients, request, deadline, idle⟩ := begun
    obtain ⟨-, used, uses, -⟩ := use_converses idle w a
    have nothing : s.holds = false := congrArg StreamStage.holds idle
    rw [nothing]
    exact ⟨used, uses⟩

theorem abandon_carriesOn (s : BroadcastStream) (w : World) :
    ∃ used, w.CarriesOn used s.holds false (s.abandon w) := by
  unfold abandon holds
  cases s.stage with
  | idle c recipients request deadline => exact ⟨[], .of_same false rfl rfl⟩
  | running f =>
    obtain ⟨used, released, -⟩ := f.releaseChannel_carriesOn w
    exact ⟨used, released⟩
  | ended => exact ⟨[], .of_same false rfl rfl⟩

/--
A stream that has been polled once or more, each time in a world of its own, with the transport at
the first poll and all its uses of transports.
-/
inductive Polls (s : BroadcastStream) : Transport → List Call → BroadcastStream → Prop
  | first {a : StreamUse} {w w' : World} {used : List Call} {s' : BroadcastStream}
      (polled : s.use w a = (s', w')) (calls : w'.calls = used.reverse ++ w.calls) :
      Polls s w.transport used s'
  | again {t : Transport} {log : List Call} {s' s'' : BroadcastStream} {a : StreamUse}
      {w w' : World} {used : List Call} (before : Polls s t log s')
      (polled : s'.use w a = (s'', w')) (calls : w'.calls = used.reverse ++ w.calls) :
      Polls s t (log ++ used) s''

/-- All polls of a stream together are one conversation, or what there is of it so far. -/
theorem Polls.converses (idle : s.stage = .idle c recipients request deadline)
    (polls : s.Polls t log s') :
    s'.Begun ∧ Conversation t (c.topic "broadcast" request.requestId) recipients request s'.holds
      log := by
  -- a poll is the only one to log its uses, so what it adds to the log says what they were
  have sole {used used' calls : List Call} (same : used.reverse ++ calls = used'.reverse ++ calls) :
      used = used' :=
    List.reverse_injective (List.append_cancel_right same)
  induction polls with
  | @first a w w' used s' polled calls =>
    obtain ⟨begun, used', uses, conversation⟩ := use_converses idle w a
    rw [polled] at begun uses conversation
    obtain rfl := sole (calls.symm.trans uses.calls)
    exact ⟨begun, conversation⟩
  | @again t log s' s'' a w w' used _ polled calls ih =>
    obtain ⟨begunBefore, conversation⟩ := ih
    obtain ⟨begun, used', carries⟩ := s'.use_carriesOn begunBefore w a
    rw [polled] at begun carries
    obtain rfl := sole (calls.symm.trans carries.calls)
    exact ⟨begun, carries.continues conversation⟩

end BroadcastStream

/-- Before its first poll a stream has used no transport. -/
theorem Coordinator.stream_idle (c : Coordinator) {recipients : List RecipientId} {payload : Json}
    {deadline : Nat} (w : World)
    (accepted : broadcastRefusal? recipients payload deadline = none) :
    ∃ s, c.stream recipients payload deadline w = (.ok s, (w.newRequest payload).2) ∧
      s.stage = .idle c (distinct recipients) ⟨s.requestId, payload⟩ deadline := by
  simp only [stream, accepted]
  exact ⟨_, rfl, rfl⟩

end RollCall
