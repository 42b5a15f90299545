import Mathlib.Tactic.Ring
import RollCall.Proofs.Bookkeeping
import RollCall.Proofs.Deadline
import RollCall.Proofs.Standing

set_option autoImplicit false

/-!
How far a broadcast runs over its deadline because of its traces. On a channel that does not depend
on how many recipients there are: none of them reports after the deadline. Without a channel each of
them has its step closed, one after another, and nothing looks at the deadline.
-/
namespace RollCall

namespace Recorder

variable {r : Recorder} {Sound : Journal → Prop} {id : RequestId} {a : Recording} {j k : Journal}
  {n : Nat}

/-- So many operations to come take as long as they may, and are carried out. -/
def Drags (r : Recorder) (n : Nat) (j : Journal) : Prop :=
  j.store.script = some (List.replicate n (.stall r.storeTimeout.millis))

/-- From one journal to another so many operations of a store that drags have passed. -/
structure Dragged (r : Recorder) (n m : Nat) (j k : Journal) : Prop where
  drags : r.Drags m k
  now : k.clock.now = j.clock.now + n * r.storeTimeout.millis

theorem Idles.dragged (idles : Idles j k) (drags : r.Drags n j) : r.Dragged 0 n j k := by
  have now : k.clock.now = j.clock.now := congrArg Moment.ms idles.moment
  refine ⟨idles.script.trans drags, ?_⟩
  rw [now, Nat.zero_mul, Nat.add_zero]

theorem Dragged.trans {l : Journal} {m p q : Nat} (first : r.Dragged n m j k)
    (second : r.Dragged p q k l) : r.Dragged (n + p) q j l := by
  refine ⟨second.drags, ?_⟩
  rw [second.now, first.now, Nat.add_mul, Nat.add_assoc]

theorem Touches.dragged (touches : Touches r j k) (drags : r.Drags (n + 1) j) :
    r.Dragged 1 n j k := by
  have entered : r.Dragged 1 n j (r.enter j).2 := by
    unfold Drags at drags
    rw [List.replicate_succ] at drags
    refine ⟨?_, ?_⟩
    · simp [Drags, enter, TraceStore.nextAdmission, drags]
    · simp [enter, TraceStore.nextAdmission, drags, TraceStore.admission, Clock.now_wait]
  cases touches with
  | entered => exact entered
  | carriedOut store broken script => exact ⟨script.trans entered.drags, entered.now⟩

/-- There is something to write only if the trace has been read. -/
theorem touches_of_pending {t : RequestTrace} {answer : List (Option StepId)}
    (pending : (r.draft id a j).1 = .pending t answer) :
    ∃ k l, Idles j k ∧ Touches r k l ∧ Idles l (r.draft id a j).2 := by
  cases a with
  | start participants =>
    dsimp only [draft] at pending ⊢
    split at pending
    · cases pending
    · rename_i named
      rw [if_neg named, snd_draftSteps]
      have counted : Idles j (j.openAll participants).2 := by
        rw [Journal.snd_openAll]
        exact ⟨rfl, rfl, rfl⟩
      exact ⟨_, _, counted, load_touches r id _, Idles.refl _⟩
  | finished participant startTime success =>
    dsimp only [draft] at pending ⊢
    split at pending
    · cases pending
    · rename_i named
      rw [if_neg named, snd_draftSteps]
      have counted : Idles j { j with clock := j.clock.tick, stepCount := j.stepCount + 1 } :=
        ⟨rfl, rfl, rfl⟩
      exact ⟨_, _, counted, load_touches r id _, Idles.refl _⟩
  | close closes =>
    dsimp only [draft] at pending ⊢
    split at pending
    · cases pending
    · rename_i busy
      have loaded := load_touches r id j
      rw [if_neg busy]
      generalize r.load id j = read at pending loaded ⊢
      obtain ⟨found, k⟩ := read
      rcases found with f | _ | trace
      · cases pending
      · cases pending
      · obtain ⟨n, taken⟩ := clock_closeAll closes trace.steps k.clock
        dsimp only at pending ⊢
        split at pending
        · rename_i changed
          rw [if_pos changed, taken]
          exact ⟨j, k, Idles.refl j, loaded, ⟨rfl, rfl, rfl⟩⟩
        · cases pending

/-- A use of the recorder that changes a trace reads it and writes it. -/
theorem dragged_of_changed (retains : r.Retains Sound) (sound : Sound j) (orderly : j.Orderly id)
    (dated : a.Dated)
    (drags : r.Drags (n + 2) j)
    (changed : (r.perform id a j).2.held id ≠ j.held id) :
    r.Dragged 2 n j (r.perform id a j).2 := by
  have drafted := draft_spec retains sound orderly.named orderly.once dated
  have written : (r.perform id a j).2 = (r.commit (r.draft id a j).1 (r.draft id a j).2).2 := rfl
  cases draft : (r.draft id a j).1 with
  | settled answer =>
    rw [written, draft] at changed
    exact absurd (congrFun drafted.held id) changed
  | pending t answer =>
    obtain ⟨k, l, before, read, after⟩ := touches_of_pending draft
    rw [written, draft, snd_commit_pending]
    have ready := before.dragged drags
    have loaded := ready.trans (read.dragged ready.drags)
    have idle := loaded.trans (after.dragged loaded.drags)
    exact idle.trans ((save_touches r t _).dragged idle.drags)

end Recorder

namespace FanOut

variable {c : Coordinator} {Sound : Journal → Prop} {f f' : FanOut} {w w' : World} {log : List Call}
  {r : Option Resolution} {rs : List Resolution} {limit n : Nat} {failure : String}

/-- On a store that does not fail the trace tells what has been reported. -/
theorem Chronicle.told {due : Option Bool} {j : Journal} (chronicle : f.Chronicle c Sound due j)
    (healthy : ¬ c.recorder.Falters Sound) :
    (j.steps f.requestId).map RollCall.Step.success =
      due :: f.slots.map fun p => p.report.map Except.isOk := by
  have tallied := chronicle.tallied
  generalize j.steps f.requestId = stored at tallied
  cases tallied with
  | nothing lost coordinator slots => exact absurd lost healthy
  | recorded label coordinator tells slots =>
    rw [List.map_cons, tells.kept healthy,
      map_eq_of_forall₂ slots fun p s tallies => (tallies.tells.kept healthy).symm]

theorem length_missing (f : FanOut) :
    f.missing.length = (f.slots.map fun p => p.report.map Except.isOk).countP Option.isNone := by
  rw [missing, List.length_map, ← List.countP_eq_length_filter, List.countP_map]
  congr 1
  funext p
  simp

/-- Over a store that drags, each report costs two operations. -/
theorem Step.dragged (step : Step f w log r f' w') (setup : f.setupFailure = some failure)
    (retains : c.recorder.Retains Sound) (healthy : ¬ c.recorder.Falters Sound)
    (chronicle : f.Chronicle c Sound none w.journal)
    (drags : c.recorder.Drags (2 * r.toList.length + n) w.journal) :
    c.recorder.Dragged (2 * r.toList.length) n w.journal w'.journal := by
  have later := step.chronicle retains chronicle
  have own := chronicle.own
  subst own
  obtain ⟨q, pending, rfl, rfl, rfl, rfl⟩ := step.of_setupFailure setup
  refine Recorder.dragged_of_changed retains chronicle.sound chronicle.orderly (.close _)
    (Nat.add_comm 2 n ▸ drags) ?_
  intro same
  have told := (later.told healthy).symm.trans
    ((congrArg _ (Journal.steps_congr same)).trans (chronicle.told healthy))
  have fewer := congrArg (List.countP Option.isNone) (List.cons.inj told).2
  rw [← length_missing, ← length_missing, missing_fill rfl] at fewer
  rw [firstPending?_eq_head?] at pending
  have less := List.length_filter_lt_length_iff_exists (p := fun s => decide (s ≠ q)).2
    ⟨q, List.mem_of_head? pending, by simp⟩
  exact Nat.ne_of_lt less fewer

theorem Run.dragged (run : Run f w log rs f' w') (setup : f.setupFailure = some failure)
    (retains : c.recorder.Retains Sound) (healthy : ¬ c.recorder.Falters Sound)
    (chronicle : f.Chronicle c Sound none w.journal)
    (drags : c.recorder.Drags (2 * rs.length + n) w.journal) :
    c.recorder.Dragged (2 * rs.length) n w.journal w'.journal := by
  induction run with
  | refl => exact (Recorder.Idles.refl _).dragged (Nat.zero_add n ▸ drags)
  | @step _ _ _ _ _ _ _ _ r rs first _ ih =>
    rw [List.length_append, Nat.mul_add] at drags ⊢
    rw [Nat.add_assoc] at drags
    have one := first.dragged setup retains healthy chronicle drags
    exact one.trans (ih (first.sameCall.setupFailure.trans setup) (first.chronicle retains chronicle)
      one.drags)

theorem journal_finish (f : FanOut) (w : World) :
    (f.finish w).2.journal = f.coordinator.recorder.endStep f.requestId f.coordinatorStep
      (f.missing.isEmpty && !f.anyFailed) w.journal := by
  unfold finish releaseChannel
  cases f.channel with
  | none => rfl
  | some ch => rfl

/-- The coordinator's step costs two operations more. -/
theorem Chronicle.dragged_finish (chronicle : f.Chronicle c Sound none w.journal)
    (retains : c.recorder.Retains Sound) (healthy : ¬ c.recorder.Falters Sound)
    (drags : c.recorder.Drags (n + 2) w.journal) :
    c.recorder.Dragged 2 n w.journal (f.finish w).2.journal := by
  have later := chronicle.concluded retains (f.missing.isEmpty && !f.anyFailed)
  have own := chronicle.own
  subst own
  rw [journal_finish]
  refine Recorder.dragged_of_changed retains chronicle.sound chronicle.orderly (.close _) drags ?_
  intro same
  have told := (later.told healthy).symm.trans
    ((congrArg _ (Journal.steps_congr same)).trans (chronicle.told healthy))
  cases (List.cons.inj told).1

/-- Opening the steps costs the first two. -/
theorem dragged_start (retains : c.recorder.Retains Sound) (healthy : ¬ c.recorder.Falters Sound)
    {recipients : List RecipientId} (once : recipients.Nodup) (request : Request)
    (named : request.requestId.isBlank = false) (wait : Nat) (sound : Sound w.journal)
    (forward : w.clock.Forward) (fresh : w.journal.held request.requestId = none)
    (few : w.journal.stepCount + (recipients.length + 1) ≤ twoTo 128)
    (atOnce : w.transport.setup? = some 0) (drags : c.recorder.Drags (n + 2) w.journal) :
    c.recorder.Dragged 2 n w.journal (start c recipients request wait w).2.journal := by
  have told := (chronicle_start retains once request named wait sound forward fresh few).told healthy
  have connected : (w.connect (c.topic "broadcast" request.requestId) recipients
      request).2.journal = w.journal := by
    rw [((w.takes_connect _ _ _).ended 0 atOnce).1, Journal.wait, Clock.wait_zero]
  have journal : (start c recipients request wait w).2.journal =
      (c.recorder.startSteps request.requestId (c.label :: recipients.map RecipientId.text)
        w.journal).2 := by
    rw [← connected]
    rfl
  rw [journal] at told ⊢
  refine Recorder.dragged_of_changed retains sound (Journal.orderly_of_none fresh) (.start _) drags ?_
  intro same
  have empty := Journal.steps_of_none (same.trans fresh)
  rw [Recorder.startSteps] at told
  rw [show (start c recipients request wait w).1.requestId = request.requestId from rfl, empty]
    at told
  cases told

/-- A fan-out with a deadline, on whose channel nothing comes late. -/
structure Aboard (limit : Nat) (f : FanOut) : Prop where
  setup : f.setupFailure = none
  deadline : f.deadline = limit
  sound : ∀ ch, f.channel = some ch → ch.Sound limit

/-- A wait ends at the deadline, and then one step is closed at most. -/
theorem Step.aboard (step : Step f w log r f' w') (aboard : f.Aboard limit) :
    f'.Aboard limit ∧
      w'.now ≤ limit + 2 * f.coordinator.recorder.storeTimeout.millis := by
  obtain ⟨setup, rfl, sound⟩ := aboard
  have received {ch ch' : Channel} {reading : Reading} {v : World} (awaits : f.Awaits w ch)
      (read : w.receive ch f.deadline = (reading, ch', v)) :
      (∀ ch, some ch' = some ch → ch.Sound f.deadline) ∧ v.now ≤ f.deadline := by
    obtain ⟨still, passes⟩ := awaits.passes sound read
    have most := passes.most
    have early := awaits.early
    exact ⟨still, by omega⟩
  cases step with
  | refused failed pending =>
    rw [setup] at failed
    cases failed
  | cutOff awaits read =>
    obtain ⟨still, inTime⟩ := received awaits read
    exact ⟨⟨setup, rfl, still⟩, Nat.le_add_right_of_le inTime⟩
  | idle awaits read =>
    obtain ⟨still, inTime⟩ := received awaits read
    exact ⟨⟨setup, rfl, still⟩, Nat.le_add_right_of_le inTime⟩
  | broken awaits read =>
    obtain ⟨-, inTime⟩ := received awaits read
    exact ⟨⟨setup, rfl, by simp⟩, Nat.le_add_right_of_le inTime⟩
  | ignored awaits read unknown =>
    obtain ⟨still, inTime⟩ := received awaits read
    exact ⟨⟨setup, rfl, still⟩, Nat.le_add_right_of_le inTime⟩
  | @reported v _ _ m step awaits read known =>
    obtain ⟨still, inTime⟩ := received awaits read
    have closed := (f.coordinator.endSteps_within f.requestId [(step, m.body.classify.isOk)] v).most
    exact ⟨⟨setup, rfl, still⟩, Nat.le_trans closed (Nat.add_le_add_right inTime _)⟩

/-- However many reports there are, the last of them is noted soon after the deadline. -/
theorem Run.aboard (run : Run f w log rs f' w') (aboard : f.Aboard limit) :
    w'.now ≤ max w.now (limit + 2 * f.coordinator.recorder.storeTimeout.millis) := by
  induction run with
  | refl => exact Nat.le_max_left _ _
  | step first _ ih =>
    obtain ⟨still, soon⟩ := first.aboard aboard
    have most := ih still
    rw [first.sameCall.coordinator] at most
    omega

theorem Step.within (step : Step f w log r f' w') (setup : f.setupFailure = some failure) :
    w'.now ≤ w.now + 2 * f.coordinator.recorder.storeTimeout.millis * r.toList.length := by
  obtain ⟨q, pending, rfl, rfl, rfl, rfl⟩ := step.of_setupFailure setup
  rw [Option.toList_some, List.length_singleton, Nat.mul_one]
  exact (f.coordinator.endSteps_within f.requestId _ w).most

theorem Run.within (run : Run f w log rs f' w') (setup : f.setupFailure = some failure) :
    w'.now ≤ w.now + 2 * f.coordinator.recorder.storeTimeout.millis * rs.length := by
  induction run with
  | refl => exact Nat.le_add_right _ _
  | step first _ ih =>
    have one := first.within setup
    have most := ih (first.sameCall.setupFailure.trans setup)
    rw [first.sameCall.coordinator] at most
    rw [List.length_append, Nat.mul_add]
    omega

/-- On a transport that takes no time, setting out takes two operations of the store at most. -/
theorem now_start_le (c : Coordinator) (recipients : List RecipientId) (request : Request)
    (wait : Nat) (atOnce : w.transport.setup? = some 0) :
    (start c recipients request wait w).2.now ≤ w.now + 2 * c.recorder.storeTimeout.millis := by
  have connected : (w.connect (c.topic "broadcast" request.requestId) recipients
      request).2.now = w.now := (w.takes_connect _ _ _).now atOnce
  have opened := c.startSteps_within request.requestId (c.label :: recipients.map RecipientId.text)
    (w.connect (c.topic "broadcast" request.requestId) recipients request).2
  rw [← connected]
  exact opened.most

theorem now_finish_le (f : FanOut) (w : World) :
    (f.finish w).2.now ≤ w.now + 2 * f.coordinator.recorder.storeTimeout.millis := by
  have closed := Recorder.perform_within f.coordinator.recorder f.requestId
    (.close [(f.coordinatorStep, f.missing.isEmpty && !f.anyFailed)]) w.journal
  have journal := journal_finish f w
  unfold World.now World.clock
  rw [journal]
  exact closed.most

end FanOut

/-- The same world over a new store, which is disturbed, and under a clock that stands still. -/
def World.overNew (script : List Disturbance) (w : World) : World :=
  { w with
    journal :=
      ⟨{ w.clock with readings := fun _ => ⟨0, 0⟩ }, .disturbed script ⟨0, 0⟩, 0, false⟩ }

theorem World.alike_overNew (script : List Disturbance) (w : World) : w.Alike (w.overNew script) :=
  ⟨rfl, rfl, rfl, rfl, rfl, rfl⟩

namespace Coordinator

variable {c : Coordinator} {recipients : List RecipientId} {payload : Json} {deadline : Nat}
  {w : World}

/-- A broadcast is a run; without a channel it brings a report of everybody. -/
theorem broadcast_run (accepted : broadcastRefusal? recipients payload deadline = none) :
    ∃ log reports f w', FanOut.Run (c.setOut recipients payload deadline w).1
        (c.setOut recipients payload deadline w).2 log reports f w' ∧
      (c.broadcast recipients payload deadline w).2 = (f.finish w').2 ∧
      ∀ failure, (c.setOut recipients payload deadline w).1.setupFailure = some failure →
        reports.length = (distinct recipients).length := by
  rcases started : c.setOut recipients payload deadline w with ⟨f, w'⟩
  rcases gathered : f.gather (f.slots.length + 1) w' with ⟨reports, f', w''⟩
  obtain ⟨log, run⟩ := FanOut.gather_run (f.slots.length + 1) f w'
  obtain ⟨owed, enough⟩ := missing_lt_slots c started
  rw [gathered] at run
  refine ⟨log, reports, f', w'', run, by rw [broadcast_eq c w accepted started gathered], ?_⟩
  intro failure fault
  obtain ⟨everybody, -⟩ := FanOut.gather_refused fault (owed ▸ distinct_nodup recipients) enough
    gathered
  rw [everybody, List.length_map, owed]

/-- On a channel a broadcast is over soon after its deadline, however many recipients it has. -/
theorem now_broadcast_of_channel
    (accepted : broadcastRefusal? recipients payload deadline = none)
    (atOnce : w.transport.setup? = some 0)
    (connected : (c.setOut recipients payload deadline w).1.setupFailure = none) :
    (c.broadcast recipients payload deadline w).2.now ≤
      w.now + deadline + 4 * c.recorder.storeTimeout.millis := by
  obtain ⟨log, reports, f, w', run, whole, -⟩ := broadcast_run (c := c) (w := w) accepted
  have outset := FanOut.now_start_le (w := (w.newRequest payload).2) c (distinct recipients)
    (w.newRequest payload).1 deadline atOnce
  have aboard : FanOut.Aboard (w.now + deadline) (c.setOut recipients payload deadline w).1 :=
    ⟨connected, rfl, FanOut.sound_start⟩
  have most := run.aboard aboard
  have finished := FanOut.now_finish_le f w'
  have begun : (w.newRequest payload).2.now = w.now := rfl
  have own : (c.setOut recipients payload deadline w).1.coordinator = c := rfl
  rw [← setOut_eq] at outset
  rw [run.sameCall.coordinator, own] at finished
  rw [own] at most
  rw [whole]
  omega

/-- Without a channel every recipient may delay a broadcast. -/
theorem now_broadcast_of_fault
    (accepted : broadcastRefusal? recipients payload deadline = none)
    (atOnce : w.transport.setup? = some 0) {failure : String}
    (fault : (c.setOut recipients payload deadline w).1.setupFailure = some failure) :
    (c.broadcast recipients payload deadline w).2.now ≤
      w.now + 2 * c.recorder.storeTimeout.millis * (distinct recipients).length +
        4 * c.recorder.storeTimeout.millis := by
  obtain ⟨log, reports, f, w', run, whole, count⟩ := broadcast_run (c := c) (w := w) accepted
  have outset := FanOut.now_start_le (w := (w.newRequest payload).2) c (distinct recipients)
    (w.newRequest payload).1 deadline atOnce
  have most := run.within fault
  have finished := FanOut.now_finish_le f w'
  have begun : (w.newRequest payload).2.now = w.now := rfl
  have own : (c.setOut recipients payload deadline w).1.coordinator = c := rfl
  rw [← setOut_eq] at outset
  rw [run.sameCall.coordinator, own] at finished
  rw [own, count failure fault] at most
  rw [whole]
  omega

/-- Without a channel, a store that drags delays a broadcast as much as any store can. -/
theorem now_broadcast_of_drags {Sound : Journal → Prop}
    (accepted : broadcastRefusal? recipients payload deadline = none)
    (atOnce : w.transport.setup? = some 0) {failure : String}
    (fault : (c.setOut recipients payload deadline w).1.setupFailure = some failure)
    (retains : c.recorder.Retains Sound) (healthy : ¬ c.recorder.Falters Sound)
    (sound : Sound w.journal) (forward : w.clock.Forward)
    (fresh : w.journal.held (RequestId.generated w.requestCount) = none)
    (few : w.journal.stepCount + ((distinct recipients).length + 1) ≤ twoTo 128)
    (drags : c.recorder.Drags (2 * (distinct recipients).length + 4) w.journal) :
    (c.broadcast recipients payload deadline w).2.now =
      w.now + 2 * c.recorder.storeTimeout.millis * (distinct recipients).length +
        4 * c.recorder.storeTimeout.millis := by
  have once := distinct_nodup recipients
  have named := RequestId.isBlank_generated w.requestCount
  obtain ⟨log, reports, f, w', run, whole, count⟩ := broadcast_run (c := c) (w := w) accepted
  have outset := FanOut.dragged_start (w := (w.newRequest payload).2) retains healthy once
    (w.newRequest payload).1 named deadline sound forward fresh few atOnce drags
  have chronicle := FanOut.chronicle_start (w := (w.newRequest payload).2) retains once
    (w.newRequest payload).1 named deadline sound forward fresh few
  rw [← setOut_eq] at outset chronicle
  have gathering := run.dragged (n := 2) fault retains healthy chronicle
    (by rw [count failure fault]; exact outset.drags)
  have finishing := (run.chronicle retains chronicle).dragged_finish (n := 0) retains healthy
    gathering.drags
  have spent := (outset.trans (gathering.trans finishing)).now
  have begun : (w.newRequest payload).2.journal.clock.now = w.now := rfl
  rw [count failure fault, begun] at spent
  rw [whole]
  refine Eq.trans spent ?_
  ring

/-- Whether there is a channel does not depend on the store. -/
theorem setupFailure_setOut {v : World} (alike : w.Alike v) :
    (c.setOut recipients payload deadline v).1.setupFailure =
      (c.setOut recipients payload deadline w).1.setupFailure := by
  obtain ⟨request, asked⟩ := alike.newRequest payload
  have outset := FanOut.alike_start c (distinct recipients) (w.newRequest payload).1 deadline asked
  rw [setOut_eq, setOut_eq, request]
  exact outset.setupFailure

/-- In every world there could be a store that drags from the first operation to the last. -/
theorem exists_latest (accepted : broadcastRefusal? recipients payload deadline = none)
    (atOnce : w.transport.setup? = some 0) (few : (distinct recipients).length + 1 ≤ twoTo 128)
    (kept : (⟨0, 0⟩ : Timestamp) < Timestamp.add ⟨0, 0⟩ c.recorder.ttl)
    (fits : (Timestamp.add ⟨0, 0⟩ c.recorder.ttl).seconds ≤ MemoryStore.lastSecond)
    {failure : String}
    (fault : (c.setOut recipients payload deadline w).1.setupFailure = some failure) :
    ∃ v, w.Alike v ∧ (c.broadcast recipients payload deadline v).2.now =
      v.now + 2 * c.recorder.storeTimeout.millis * (distinct recipients).length +
        4 * c.recorder.storeTimeout.millis := by
  generalize script : List.replicate (2 * (distinct recipients).length + 4)
    (Disturbance.stall c.recorder.storeTimeout.millis) = entries
  have inTime : ∀ d ∈ entries,
      (TraceStore.admission c.recorder.storeTimeout.millis d).1 = .carriedOut := by
    intro d member
    rw [← script] at member
    rw [List.eq_of_mem_replicate member]
    simp [TraceStore.admission]
  have healthy : c.recorder.Healthy (w.overNew entries).journal :=
    ⟨Recorder.lasting_still (fun _ => rfl) (by decide) kept (.memory _ _)
      (if_pos (decide_eq_true fits)), inTime⟩
  have forward : (w.overNew entries).clock.Forward :=
    fun _ _ _ => Timestamp.le_iff.2 (Or.inr ⟨rfl, Nat.le_refl _⟩)
  have room : (w.overNew entries).journal.stepCount + ((distinct recipients).length + 1) ≤
      twoTo 128 := by
    rw [show (w.overNew entries).journal.stepCount = 0 from rfl, Nat.zero_add]
    exact few
  have drags : c.recorder.Drags (2 * (distinct recipients).length + 4) (w.overNew entries).journal :=
    congrArg some script.symm
  have alike := w.alike_overNew entries
  exact ⟨w.overNew entries, alike, now_broadcast_of_drags accepted atOnce
    ((setupFailure_setOut alike).trans fault) (Recorder.retains_healthy _)
    (Recorder.not_falters_healthy _) healthy forward rfl room drags⟩

variable (c recipients payload deadline)

/--
Broadcasts on a transport that takes no time, over any store. A broadcast is over at its deadline,
or when two operations of the store for every recipient have taken as long as they may, and four
operations later at most. That it is over four operations after its deadline is true of all stores
exactly if the request gets on a channel or the deadline allows for two operations for every
recipient.
-/
theorem broadcast_overrun_iff (w : World)
    (accepted : broadcastRefusal? recipients payload deadline = none)
    (atOnce : w.transport.setup? = some 0) (few : (distinct recipients).length + 1 ≤ twoTo 128)
    (kept : (⟨0, 0⟩ : Timestamp) < Timestamp.add ⟨0, 0⟩ c.recorder.ttl)
    (fits : (Timestamp.add ⟨0, 0⟩ c.recorder.ttl).seconds ≤ MemoryStore.lastSecond) :
    (∀ v, w.Alike v → (c.broadcast recipients payload deadline v).2.now ≤ v.now +
        max deadline (2 * c.recorder.storeTimeout.millis * (distinct recipients).length) +
          4 * c.recorder.storeTimeout.millis) ∧
    ((∀ v, w.Alike v → (c.broadcast recipients payload deadline v).2.now ≤
        v.now + deadline + 4 * c.recorder.storeTimeout.millis) ↔
      (c.setOut recipients payload deadline w).1.setupFailure = none ∨
        2 * c.recorder.storeTimeout.millis * (distinct recipients).length ≤ deadline) := by
  have atOnceLater {v : World} (alike : w.Alike v) : v.transport.setup? = some 0 := by
    rw [alike.transport]
    exact atOnce
  cases outcome : (c.setOut recipients payload deadline w).1.setupFailure with
  | none =>
    have most {v : World} (alike : w.Alike v) := now_broadcast_of_channel accepted
      (atOnceLater alike) ((setupFailure_setOut alike).trans outcome)
    refine ⟨?_, iff_of_true (fun v alike => most alike) (Or.inl rfl)⟩
    intro v alike
    have bound := most alike
    omega
  | some failure =>
    have most {v : World} (alike : w.Alike v) := now_broadcast_of_fault accepted
      (atOnceLater alike) ((setupFailure_setOut alike).trans outcome)
    refine ⟨?_, ?_, ?_⟩
    · intro v alike
      have bound := most alike
      omega
    · intro inTime
      obtain ⟨v, alike, latest⟩ := exists_latest accepted atOnce few kept fits outcome
      have bound := inTime v alike
      exact Or.inr (by omega)
    · intro short v alike
      have bound := most alike
      rcases short with absent | short
      · cases absent
      · omega

end Coordinator

def World.unreachableRehearsal (script : List Disturbance) : World :=
  { rehearsal script with
    transport := .playback ⟨[], [⟨some 0, some (.transport "unreachable"), some 0, none, []⟩]⟩ }

namespace Coordinator

/-- Three recipients may take thirty milliseconds together, which one deadline allows for. -/
theorem broadcast_overrun_iff_rehearsal :
    (∀ v, (World.unreachableRehearsal []).Alike v →
      (rehearsal.broadcast [⟨"a"⟩, ⟨"b"⟩, ⟨"a"⟩, ⟨"c"⟩] (.string "hi") 30 v).2.now ≤
        v.now + 30 + 4 * 5) ∧
    ¬ ∀ v, (World.unreachableRehearsal []).Alike v →
      (rehearsal.broadcast [⟨"a"⟩, ⟨"b"⟩, ⟨"a"⟩, ⟨"c"⟩] (.string "hi") 29 v).2.now ≤
        v.now + 29 + 4 * 5 := by
  obtain ⟨-, enough⟩ := rehearsal.broadcast_overrun_iff [⟨"a"⟩, ⟨"b"⟩, ⟨"a"⟩, ⟨"c"⟩] (.string "hi") 30
    (World.unreachableRehearsal []) (by decide) rfl (by decide) (by decide) (by decide)
  obtain ⟨-, short⟩ := rehearsal.broadcast_overrun_iff [⟨"a"⟩, ⟨"b"⟩, ⟨"a"⟩, ⟨"c"⟩] (.string "hi") 29
    (World.unreachableRehearsal []) (by decide) rfl (by decide) (by decide) (by decide)
  refine ⟨enough.2 (Or.inr (by decide)), ?_⟩
  intro inTime
  rcases short.1 inTime with connected | less
  · exact absurd connected (by decide)
  · exact absurd less (by decide)

/-- A store that drags keeps a call with a deadline of five milliseconds for fifty. -/
theorem broadcast_overrun :
    let w := World.unreachableRehearsal (List.replicate 10 (.stall 5))
    w.transport.setup? = some 0 ∧
      broadcastRefusal? [⟨"a"⟩, ⟨"b"⟩, ⟨"c"⟩] (.string "ping") 5 = none ∧
      (rehearsal.broadcast [⟨"a"⟩, ⟨"b"⟩, ⟨"c"⟩] (.string "ping") 5 w).2.now = 50 ∧
      ¬ (rehearsal.broadcast [⟨"a"⟩, ⟨"b"⟩, ⟨"c"⟩] (.string "ping") 5 w).2.now ≤
        w.now + 5 + 4 * rehearsal.recorder.storeTimeout.millis := by
  have late : (rehearsal.broadcast [⟨"a"⟩, ⟨"b"⟩, ⟨"c"⟩] (.string "ping") 5
      (World.unreachableRehearsal (List.replicate 10 (.stall 5)))).2.now = 50 := by
    decide +kernel
  refine ⟨rfl, by decide, late, ?_⟩
  rw [late]
  decide

end Coordinator

end RollCall
