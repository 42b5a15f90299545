import RollCall.Proofs.Account
import RollCall.Proofs.Conversing
import RollCall.Proofs.Exchange
import RollCall.Proofs.Mirror

set_option autoImplicit false

/-!
What a call leaves alone. It records under its own request, so that what is stored of any other
request stays as it is, and it takes one new identifier at most.
-/
namespace RollCall

structure Journal.InOrder (Sound : Journal → Prop) (j : Journal) : Prop where
  sound : Sound j
  forward : j.clock.Forward
  orderly : ∀ id, j.Orderly id

/--
From one journal to another some requests are left alone and everything stays in order, as long as
the identifiers of steps last.
-/
structure Journal.Bypasses (Sound : Journal → Prop) (spared : RequestId → Prop) (j k : Journal) :
    Prop where
  counted : j.stepCount ≤ k.stepCount
  spares : k.stepCount ≤ twoTo 128 → j.InOrder Sound →
    k.InOrder Sound ∧ ∀ id, spared id → j.Spares Sound id k

namespace Journal

variable {Sound : Journal → Prop} {spared : RequestId → Prop} {id : RequestId} {j k l : Journal}
  {r : Recorder}

theorem Spares.trans (first : j.Spares Sound id k) (second : k.Spares Sound id l) :
    j.Spares Sound id l :=
  ⟨fun sound => second.sound (first.sound sound), first.onward.trans second.onward,
    Nat.le_trans first.counted second.counted, fun few => second.few (first.few few),
    second.held.trans first.held⟩

theorem Bypasses.refl (Sound : Journal → Prop) (spared : RequestId → Prop) (j : Journal) :
    j.Bypasses Sound spared j :=
  ⟨Nat.le_refl _, fun _ inOrder => ⟨inOrder, fun id _ => .refl Sound id j⟩⟩

theorem Bypasses.trans (first : j.Bypasses Sound spared k) (second : k.Bypasses Sound spared l) :
    j.Bypasses Sound spared l := by
  refine ⟨Nat.le_trans first.counted second.counted, ?_⟩
  intro few inOrder
  obtain ⟨still, spares⟩ := first.spares (Nat.le_trans second.counted few) inOrder
  obtain ⟨last, later⟩ := second.spares few still
  exact ⟨last, fun id own => (spares id own).trans (later id own)⟩

theorem Bypasses.weaken (bypasses : j.Bypasses Sound spared k) :
    j.Bypasses Sound (fun _ => False) k := by
  refine ⟨bypasses.counted, ?_⟩
  intro few inOrder
  exact ⟨(bypasses.spares few inOrder).1, fun _ impossible => impossible.elim⟩

/-- What only takes time leaves every request alone. -/
theorem Elapses.bypasses (elapses : j.Elapses k) (retains : r.Retains Sound)
    (spared : RequestId → Prop) : j.Bypasses Sound spared k := by
  refine ⟨Nat.le_of_eq elapses.counted.symm, ?_⟩
  intro _ inOrder
  have spares := elapses.spares retains inOrder.sound
  refine ⟨⟨(spares ⟨""⟩).sound inOrder.sound, inOrder.forward.onward elapses.onward, fun id => ?_⟩,
    fun id _ => spares id⟩
  exact (inOrder.orderly id).carry (spares id).held (spares id).counted inOrder.forward
    (spares id).onward

/-- A use of the recorder leaves alone what is stored of other requests. -/
theorem bypasses_perform (retains : r.Retains Sound) (apart : ¬ spared id) {a : Recording}
    (j : Journal) (dated : Sound j → a.Dated) : j.Bypasses Sound spared (r.perform id a j).2 := by
  refine ⟨Recorder.stepCount_le_perform r id a j, ?_⟩
  intro few inOrder
  have performed := Recorder.perform_spec retains inOrder.sound (inOrder.orderly id).named
    (inOrder.orderly id).once (dated inOrder.sound)
  refine ⟨⟨performed.sound, inOrder.forward.onward performed.onward, fun x => ?_⟩, ?_⟩
  · by_cases own : x = id
    · subst own
      exact performed.orderly (inOrder.orderly x) inOrder.forward few
    · exact (inOrder.orderly x).carry (performed.others x own) performed.counted inOrder.forward
        performed.onward
  · intro x other
    have apart : x ≠ id := fun same => apart (same ▸ other)
    exact ⟨fun _ => performed.sound, performed.onward, performed.counted, fun _ => few,
      performed.others x apart⟩

end Journal

variable {Sound : Journal → Prop} {spared : RequestId → Prop}

namespace FanOut

variable {c : Coordinator} {f f' : FanOut} {w w' : World} {log : List Call} {r : Option Resolution}
  {rs : List Resolution}

theorem start_bypasses (retains : c.recorder.Retains Sound) {request : Request}
    (apart : ¬ spared request.requestId) (recipients : List RecipientId) (wait : Nat) (w : World) :
    w.journal.Bypasses Sound spared (start c recipients request wait w).2.journal := by
  have connected := World.elapses_connect (c.topic "broadcast" request.requestId) recipients request w
  exact (connected.bypasses retains spared).trans (Journal.bypasses_perform retains apart
    (a := .start (c.label :: recipients.map RecipientId.text)) _ fun _ => .start _)

theorem Step.bypasses (step : Step f w log r f' w') (retains : f.coordinator.recorder.Retains Sound)
    (apart : ¬ spared f.requestId) : w.journal.Bypasses Sound spared w'.journal := by
  have waits {c c' : Channel} {reading : Reading} {v : World}
      (read : w.receive c f.deadline = (reading, c', v)) :
      w.journal.Bypasses Sound spared v.journal := by
    have elapses := World.elapses_receive c f.deadline w
    rw [read] at elapses
    exact elapses.bypasses retains spared
  cases step with
  | refused setup pending => exact Journal.bypasses_perform retains apart _ fun _ => .close _
  | cutOff awaits read => exact waits read
  | idle awaits read => exact waits read
  | broken awaits read =>
    -- giving the channel back is not written down
    have waited := waits read
    exact waited
  | ignored awaits read unknown => exact waits read
  | reported awaits read known =>
    exact (waits read).trans (Journal.bypasses_perform retains apart _ fun _ => .close _)

theorem Run.bypasses (run : Run f w log rs f' w') (retains : f.coordinator.recorder.Retains Sound)
    (apart : ¬ spared f.requestId) : w.journal.Bypasses Sound spared w'.journal := by
  induction run with
  | refl => exact .refl Sound spared _
  | step first _ ih =>
    have same := first.sameCall
    exact (first.bypasses retains apart).trans
      (ih (same.coordinator ▸ retains) (same.requestId ▸ apart))

theorem releaseChannel_spec (f : FanOut) (w : World) :
    (f.releaseChannel w).1 = { f with channel := none } ∧
      (f.releaseChannel w).2.journal = w.journal ∧
      (f.releaseChannel w).2.requestCount = w.requestCount := by
  obtain ⟨c, id, step, slots, channel, failure, deadline, notes⟩ := f
  cases channel with
  | none => exact ⟨rfl, rfl, rfl⟩
  | some ch => exact ⟨rfl, rfl, rfl⟩

theorem finish_bypasses (retains : f.coordinator.recorder.Retains Sound) (apart : ¬ spared f.requestId)
    (w : World) : w.journal.Bypasses Sound spared (f.finish w).2.journal := by
  obtain ⟨released, journal, -⟩ := f.releaseChannel_spec w
  have ended : (f.finish w).2.journal = (f.coordinator.recorder.perform f.requestId
      (.close [(f.coordinatorStep, f.missing.isEmpty && !f.anyFailed)]) w.journal).2 := by
    rw [← journal]
    simp only [finish, released]
    rfl
  rw [ended]
  exact Journal.bypasses_perform retains apart _ fun _ => .close _

end FanOut

namespace Watch

variable {n : Nat} {s s' : Watch} {ch ch' : Channel} {w w' : World} {log : List Reading}

def Shown (s : Watch) (w : World) : Prop := ∃ n, s.since = w.clock.readings n

theorem Shown.later {v : World} (shown : s.Shown w) (elapses : w.journal.Elapses v.journal) :
    s.Shown v := by
  obtain ⟨n, same⟩ := shown
  exact ⟨n, same.trans (congrFun elapses.onward.readings n).symm⟩

theorem shown_see (s : Watch) (m : Reply) (w : World) : (s.see m w).1.Shown (s.see m w).2 :=
  ⟨_, rfl⟩

theorem see_bypasses (retains : s.coordinator.recorder.Retains Sound) (apart : ¬ spared s.requestId)
    (shown : s.Shown w) (m : Reply) :
    w.journal.Bypasses Sound spared (s.see m w).2.journal := by
  have recorded := Journal.bypasses_perform retains apart
    (a := .finished m.sender.text s.since (!m.body.isRejected)) w.journal (by
      intro sound
      obtain ⟨n, same⟩ := shown
      exact .finished (same ▸ retains.known sound n) _ _)
  refine recorded.trans (Journal.Elapses.bypasses ?_ retains spared)
  exact ⟨rfl, Clock.onward_tick _, rfl⟩

theorem Reads.bypasses (reads : Reads n s ch w log s' ch' w')
    (retains : s.coordinator.recorder.Retains Sound) (apart : ¬ spared s.requestId)
    (shown : s.Shown w) : w.journal.Bypasses Sound spared w'.journal := by
  have elapses {s : Watch} {c c' : Channel} {reading : Reading} {u v : World}
      (read : u.receive c s.deadline = (reading, c', v)) : u.journal.Elapses v.journal := by
    have elapses := World.elapses_receive c s.deadline u
    rw [read] at elapses
    exact elapses
  have waits {s : Watch} {c c' : Channel} {reading : Reading} {u v : World}
      (same : s.coordinator.recorder.Retains Sound) (read : u.receive c s.deadline = (reading, c', v)) :
      u.journal.Bypasses Sound spared v.journal := (elapses read).bypasses same spared
  induction reads with
  | weary s c w => exact .refl Sound spared _
  | late => exact .refl Sound spared _
  | cutOff _ read => exact waits retains read
  | broken _ read => exact waits retains read
  | marked _ read =>
    exact (waits retains read).trans (see_bypasses retains apart (shown.later (elapses read)) _)
  | idle _ read _ ih =>
    exact (waits retains read).trans (ih retains apart (shown.later (elapses read)))
  | hop _ read _ _ ih =>
    exact (waits retains read).trans ((see_bypasses retains apart (shown.later (elapses read)) _).trans
      (ih retains apart (shown_see _ _ _)))

end Watch

namespace Coordinator

variable {c : Coordinator} {w : World}

theorem dispatch_bypasses (retains : c.recorder.Retains Sound) (timeout : Span)
    (recipient : RecipientId) {request : Request} (apart : ¬ spared request.requestId) (w : World) :
    w.journal.Bypasses Sound spared (c.dispatch timeout recipient request w).2.journal := by
  cases refused : dispatchRefusal? recipient request with
  | some refusal =>
    rw [dispatch_of_refused c timeout w refused]
    exact .refl Sound spared _
  | none =>
    simp only [dispatch, refused]
    have opened := Journal.bypasses_perform retains apart
      (a := .start [c.exchangeLabel, recipient.text]) w.journal fun _ => .start _
    have sent := (World.elapses_send recipient request
      ((c.startSteps request.requestId [c.exchangeLabel, recipient.text] w).2.now + timeout.millis)
      (c.startSteps request.requestId [c.exchangeLabel, recipient.text] w).2).bypasses retains spared
    exact (opened.trans sent).trans (Journal.bypasses_perform retains apart _ fun _ => .close _)

theorem broadcast_bypasses (retains : c.recorder.Retains Sound) (recipients : List RecipientId)
    (payload : Json) (deadline : Nat) (apart : ¬ spared (RequestId.generated w.requestCount)) :
    w.journal.Bypasses Sound spared (c.broadcast recipients payload deadline w).2.journal := by
  cases refused : broadcastRefusal? recipients payload deadline with
  | some refusal =>
    simp only [broadcast, refused]
    exact .refl Sound spared _
  | none =>
    rcases started : c.setOut recipients payload deadline w with ⟨f, v⟩
    rcases gathered : f.gather (f.slots.length + 1) v with ⟨reports, f', v'⟩
    obtain ⟨log, run⟩ := FanOut.gather_run (f.slots.length + 1) f v
    rw [gathered] at run
    have own : ¬ spared (w.newRequest payload).1.requestId := apart
    have begins := FanOut.start_bypasses retains own
      (distinct recipients) deadline (w.newRequest payload).2
    rw [setOut_eq] at started
    rw [started] at begins
    have begun : f = (FanOut.start c (distinct recipients) (w.newRequest payload).1 deadline
        (w.newRequest payload).2).1 := by
      rw [started]
    have own : f.coordinator = c ∧ f.requestId = RequestId.generated w.requestCount := by
      rw [begun]
      exact ⟨rfl, rfl⟩
    have same := run.sameCall
    have gathers := run.bypasses (own.1 ▸ retains) (own.2 ▸ apart)
    have ends : v'.journal.Bypasses Sound spared (f'.finish v').2.journal := by
      apply FanOut.finish_bypasses
      · rw [same.coordinator, own.1]
        exact retains
      · rw [same.requestId, own.2]
        exact apart
    rw [broadcast_eq c w refused started gathered]
    exact begins.trans (gathers.trans ends)

theorem seed_bypasses (retains : c.recorder.Retains Sound) (seeds : List RecipientId)
    (payload : Json) (apart : ¬ spared (RequestId.generated w.requestCount)) :
    w.journal.Bypasses Sound spared (c.seed seeds payload w).2.2.journal := by
  have opened := Journal.bypasses_perform retains apart (a := .start [c.label]) w.journal
    fun _ => .start _
  have connected := World.elapses_connect (c.topic "relay" (RequestId.generated w.requestCount)) seeds
    (w.newRequest payload).1
    (c.startSteps (RequestId.generated w.requestCount) [c.label] (w.newRequest payload).2).2
  exact opened.trans (connected.bypasses retains spared)

theorem relay_bypasses (retains : c.recorder.Retains Sound) (seeds : List RecipientId)
    (payload : Json) (marker : String) (deadline : Nat)
    (apart : ¬ spared (RequestId.generated w.requestCount)) :
    w.journal.Bypasses Sound spared (c.relay seeds payload marker deadline w).2.journal := by
  cases refused : relayRefusal? seeds payload marker deadline with
  | some refusal =>
    rw [relay_of_refused c refused]
    exact .refl Sound spared _
  | none =>
    rcases seeded : c.seed seeds payload w with ⟨connected, step, v⟩
    have begins := seed_bypasses retains seeds payload apart
    rw [seeded] at begins
    cases connected with
    | error fault =>
      rw [c.relay_of_fault refused seeded]
      exact begins.trans (Journal.bypasses_perform retains apart _ fun _ => .close _)
    | ok ch =>
      obtain ⟨log, s, ch', w'', elapsed, reads, done⟩ := c.relay_reads refused seeded
      rw [done]
      have stamped := v.elapses_wallClock.bypasses retains spared
      have watched := stamped.trans (reads.bypasses retains apart ⟨_, rfl⟩)
      exact (begins.trans watched).trans (Journal.bypasses_perform retains apart _ fun _ => .close _)

end Coordinator

/-- A stream of a coordinator that is not about the requests that are left alone. -/
def StreamStage.Apart (c : Coordinator) (spared : RequestId → Prop) : StreamStage → Prop
  | .idle c' _ request _ => c' = c ∧ ¬ spared request.requestId
  | .running f => f.coordinator = c ∧ ¬ spared f.requestId
  | .ended => True

namespace FanOut

variable {c : Coordinator} {f f' : FanOut} {w w' : World} {log : List Call} {rs : List Resolution}

theorem Run.apart (run : Run f w log rs f' w') (own : (StreamStage.running f).Apart c spared) :
    (StreamStage.running f').Apart c spared := by
  have same := run.sameCall
  exact ⟨same.coordinator.trans own.1, fun clash => own.2 (same.requestId ▸ clash)⟩

theorem linger_run (looks : Nat) (f : FanOut) (w : World) :
    ∃ log rs, Run f w log rs (f.linger looks w).1 (f.linger looks w).2 := by
  unfold linger
  cases setup : f.setupFailure with
  | some failure => exact ⟨[], [], .refl f w⟩
  | none =>
    obtain ⟨log, run⟩ := readOn_run looks f w setup
    exact ⟨log, _, run⟩

theorem nextEvent_bypasses (retains : c.recorder.Retains Sound)
    (own : (StreamStage.running f).Apart c spared) (w : World) :
    (f.nextEvent w).2.1.Apart c spared ∧
      w.journal.Bypasses Sound spared (f.nextEvent w).2.2.journal := by
  obtain ⟨log, run⟩ := next_run f w
  have later := run.apart own
  have reads := run.bypasses (own.1 ▸ retains) own.2
  rcases advanced : f.next w with ⟨_ | r, f', w'⟩
  · rw [advanced] at later reads
    rw [nextEvent_of_last advanced]
    exact ⟨trivial, reads.trans (finish_bypasses (later.1 ▸ retains) later.2 w')⟩
  · rw [advanced] at later reads
    rw [nextEvent_of_report advanced]
    exact ⟨later, reads⟩

end FanOut

namespace BroadcastStream

variable {c : Coordinator} {s : BroadcastStream}

theorem use_bypasses_of_running (retains : c.recorder.Retains Sound) {f : FanOut}
    (running : s.stage = .running f) (own : (StreamStage.running f).Apart c spared) (w : World)
    (a : StreamUse) :
    (s.use w a).1.stage.Apart c spared ∧ w.journal.Bypasses Sound spared (s.use w a).2.journal := by
  cases a with
  | poll =>
    simp only [use, next, running]
    exact FanOut.nextEvent_bypasses retains own w
  | glance looks =>
    obtain ⟨log, rs, run⟩ := f.linger_run looks w
    simp only [use, running]
    exact ⟨run.apart own, run.bypasses (own.1 ▸ retains) own.2⟩

/-- A use of a stream leaves other requests alone. -/
theorem use_bypasses (retains : c.recorder.Retains Sound) (own : s.stage.Apart c spared) (w : World)
    (a : StreamUse) :
    (s.use w a).1.stage.Apart c spared ∧ w.journal.Bypasses Sound spared (s.use w a).2.journal := by
  cases stage : s.stage with
  | idle c' recipients request deadline =>
    rw [stage] at own
    obtain ⟨rfl, apart⟩ := own
    rcases started : FanOut.start c' recipients request deadline w with ⟨f, v⟩
    have begins := FanOut.start_bypasses retains apart recipients deadline w
    have begun : f = (FanOut.start c' recipients request deadline w).1 := by
      rw [started]
    rw [started] at begins
    have running : (StreamStage.running f).Apart c' spared := by
      rw [begun]
      exact ⟨rfl, apart⟩
    obtain ⟨later, uses⟩ :=
      use_bypasses_of_running (s := { s with stage := .running f }) retains rfl running v a
    rw [use_idle stage started]
    exact ⟨later, begins.trans uses⟩
  | running f =>
    rw [stage] at own
    exact use_bypasses_of_running retains stage own w a
  | ended =>
    have nothing : s.use w a = (s, w) := by
      cases a with
      | poll => simp only [use, next, stage]
      | glance looks => simp only [use, stage]
    rw [nothing]
    exact ⟨own, .refl Sound spared _⟩

theorem abandon_journal (s : BroadcastStream) (w : World) : (s.abandon w).journal = w.journal := by
  unfold abandon
  cases s.stage with
  | idle c recipients request deadline => rfl
  | running f => exact (f.releaseChannel_spec w).2.1
  | ended => rfl

end BroadcastStream

theorem World.requestCount_openChannel (topic : String) (recipients : List RecipientId)
    (w : World) : (w.openChannel topic recipients).2.requestCount = w.requestCount :=
  requestCount_await (w.transport.openChannel topic recipients).2.1
    { w.log (.open topic recipients) with
      transport := (w.transport.openChannel topic recipients).2.2 }

theorem World.requestCount_publish (request : Request) (c : Channel) (w : World) :
    (w.publish request c).2.requestCount = w.requestCount :=
  requestCount_await c.publishDelay (w.log (.publish request.payload))

theorem World.requestCount_connect (topic : String) (recipients : List RecipientId)
    (request : Request) (w : World) :
    (w.connect topic recipients request).2.requestCount = w.requestCount := by
  unfold connect
  have same := w.requestCount_openChannel topic recipients
  generalize w.openChannel topic recipients = o at same ⊢
  obtain ⟨outcome, v⟩ := o
  cases outcome with
  | error e => exact same
  | ok c =>
    dsimp only
    have still := v.requestCount_publish request c
    generalize v.publish request c = o at still ⊢
    obtain ⟨outcome, u⟩ := o
    cases outcome with
    | error e => exact still.trans same
    | ok c' => exact still.trans same

theorem World.requestCount_send (recipient : RecipientId) (request : Request) (limit : Nat)
    (w : World) : (w.send recipient request limit).2.requestCount = w.requestCount := by
  simp only [send]
  split
  · split <;> rfl
  · rfl

namespace FanOut

variable {f f' : FanOut} {w w' : World} {log : List Call} {r : Option Resolution}
  {rs : List Resolution}

theorem Step.requestCount (step : Step f w log r f' w') : w'.requestCount = w.requestCount := by
  have waits {c c' : Channel} {reading : Reading} {v : World}
      (read : w.receive c f.deadline = (reading, c', v)) : v.requestCount = w.requestCount := by
    cases read
    rfl
  cases step with
  | refused setup pending => rfl
  | cutOff awaits read => exact waits read
  | idle awaits read => exact waits read
  | broken awaits read =>
    have counted := waits read
    exact counted
  | ignored awaits read unknown => exact waits read
  | reported awaits read known =>
    have counted := waits read
    exact counted

theorem Run.requestCount (run : Run f w log rs f' w') : w'.requestCount = w.requestCount := by
  induction run with
  | refl => rfl
  | step first _ ih => exact ih.trans first.requestCount

theorem requestCount_finish (f : FanOut) (w : World) :
    (f.finish w).2.requestCount = w.requestCount := by
  obtain ⟨-, -, counted⟩ := f.releaseChannel_spec w
  exact counted

end FanOut

theorem Watch.Reads.requestCount {n : Nat} {s s' : Watch} {ch ch' : Channel} {w w' : World}
    {log : List Reading} (reads : Reads n s ch w log s' ch' w') :
    w'.requestCount = w.requestCount := by
  have waits {limit : Nat} {c c' : Channel} {reading : Reading} {u v : World}
      (read : u.receive c limit = (reading, c', v)) : v.requestCount = u.requestCount := by
    cases read
    rfl
  induction reads with
  | weary => rfl
  | late => rfl
  | cutOff _ read => exact waits read
  | broken _ read => exact waits read
  | marked _ read =>
    have counted := waits read
    exact counted
  | idle _ read _ ih => exact ih.trans (waits read)
  | hop _ read _ _ ih =>
    have counted := waits read
    exact ih.trans counted

namespace Coordinator

variable (c : Coordinator) {w : World}

/-- A broadcast that is not refused takes one identifier. -/
theorem requestCount_broadcast {recipients : List RecipientId} {payload : Json} {deadline : Nat}
    (accepted : broadcastRefusal? recipients payload deadline = none) :
    (c.broadcast recipients payload deadline w).2.requestCount = w.requestCount + 1 := by
  rcases started : c.setOut recipients payload deadline w with ⟨f, v⟩
  rcases gathered : f.gather (f.slots.length + 1) v with ⟨reports, f', v'⟩
  obtain ⟨log, run⟩ := FanOut.gather_run (f.slots.length + 1) f v
  rw [gathered] at run
  have begins : v.requestCount = w.requestCount + 1 := by
    cases started
    exact World.requestCount_connect _ _ _ _
  rw [broadcast_eq c w accepted started gathered]
  exact (FanOut.requestCount_finish f' v').trans (run.requestCount.trans begins)

/-- So does a relay. -/
theorem requestCount_relay {seeds : List RecipientId} {payload : Json} {marker : String}
    {deadline : Nat} (accepted : relayRefusal? seeds payload marker deadline = none) :
    (c.relay seeds payload marker deadline w).2.requestCount = w.requestCount + 1 := by
  rcases seeded : c.seed seeds payload w with ⟨connected, step, v⟩
  have begins : v.requestCount = w.requestCount + 1 := by
    cases seeded
    exact World.requestCount_connect _ _ _ _
  cases connected with
  | error fault =>
    rw [c.relay_of_fault accepted seeded]
    exact begins
  | ok ch =>
    obtain ⟨log, s, ch', w'', elapsed, reads, done⟩ := c.relay_reads accepted seeded
    rw [done]
    exact reads.requestCount.trans begins

end Coordinator

namespace BroadcastStream

theorem requestCount_use (s : BroadcastStream) (w : World) (a : StreamUse) :
    (s.use w a).2.requestCount = w.requestCount := by
  have running {s : BroadcastStream} {f : FanOut} (stage : s.stage = .running f) (w : World) :
      (s.use w a).2.requestCount = w.requestCount := by
    cases a with
    | poll =>
      obtain ⟨log, run⟩ := f.next_run w
      have counted := run.requestCount
      simp only [use, next, stage]
      rcases advanced : f.next w with ⟨_ | r, f', w'⟩
      · rw [advanced] at counted
        rw [FanOut.nextEvent_of_last advanced]
        exact (FanOut.requestCount_finish f' w').trans counted
      · rw [advanced] at counted
        rw [FanOut.nextEvent_of_report advanced]
        exact counted
    | glance looks =>
      obtain ⟨log, rs, run⟩ := f.linger_run looks w
      simp only [use, stage]
      exact run.requestCount
  cases stage : s.stage with
  | idle c recipients request deadline =>
    rw [use_idle (w := w) stage rfl]
    exact (running (s := { s with stage := .running _ }) rfl _).trans
      (World.requestCount_connect _ _ _ _)
  | running f => exact running stage w
  | ended =>
    cases a with
    | poll => simp only [use, next, stage]
    | glance looks => simp only [use, stage]

theorem requestCount_abandon (s : BroadcastStream) (w : World) :
    (s.abandon w).requestCount = w.requestCount := by
  unfold abandon
  cases s.stage with
  | idle c recipients request deadline => rfl
  | running f => exact (f.releaseChannel_spec w).2.2
  | ended => rfl

end BroadcastStream

end RollCall
