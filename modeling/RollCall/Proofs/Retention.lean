import RollCall.Proofs.Ledger
import RollCall.Proofs.Partition
import RollCall.Proofs.Serving

set_option autoImplicit false

/-!
Either kind of store loses nothing while no trace expires, whatever disturbs its operations. If
every operation is also carried out in time, none of them fails.
-/
namespace RollCall

/-- The store of a journal serves what is due, and none of that ever expires. -/
structure Journal.Stocks (j : Journal) (due : RequestId → Option Record) : Prop where
  serves : j.store.backend.Serves due j.clock.reading
  dated : ∀ id, ∀ e ∈ due id, e.trace.Dated
  live : ∀ id, ∀ e ∈ due id, ∀ n, j.clock.readings n < e.expiresAt

namespace Journal.Stocks

variable {j k : Journal} {due : RequestId → Option Record}

theorem filter_isLive (stocks : j.Stocks due) (id : RequestId) :
    (due id).filter (·.isLive j.clock.reading) = due id := by
  cases held : due id with
  | none => rfl
  | some e =>
    have live : e.isLive j.clock.reading = true :=
      decide_eq_true (stocks.live id e held j.clock.taken)
    rw [Option.filter_some, if_pos live]

theorem fst_load (stocks : j.Stocks due) (id : RequestId) :
    (j.store.load id j.clock.reading).1 = .ok ((due id).map Record.trace) := by
  rw [(TraceStore.load_spec stocks.serves id).1, stocks.filter_isLive]

theorem held (stocks : j.Stocks due) (id : RequestId) : j.held id = (due id).map Record.trace := by
  rw [Journal.held, stocks.fst_load]
  rfl

theorem later (stocks : j.Stocks due) (forward : j.clock.Forward) (onward : j.clock.Onward k.clock)
    (same : k.store.backend = j.store.backend) : k.Stocks due := by
  refine ⟨?_, stocks.dated, ?_⟩
  · rw [same]
    exact stocks.serves.mono (forward.reading_le onward)
  · rw [onward.readings]
    exact stocks.live

end Journal.Stocks

namespace Recorder

/-- A store in which nothing that is or will be saved ever expires. -/
structure Lasting (r : Recorder) (j : Journal) : Prop where
  steady : j.clock.Steady
  lasts : ∀ m n, j.clock.readings n < (j.clock.readings m).add r.ttl
  accepted : ∀ n, j.store.backend.refusal? r.ttl (j.clock.readings n) = none
  stocks : ∃ due, j.Stocks due

variable {r : Recorder} {j k : Journal}

/-- The traces depend on the store's backend alone. -/
theorem Lasting.later (lasting : r.Lasting j) (onward : j.clock.Onward k.clock)
    (same : k.store.backend = j.store.backend) : r.Lasting k ∧ k.held = j.held := by
  obtain ⟨steady, lasts, accepted, due, stocks⟩ := lasting
  have after : k.Stocks due := stocks.later steady.forward onward same
  refine ⟨⟨steady.onward onward, ?_, ?_, due, after⟩, funext fun id => ?_⟩
  · rw [onward.readings]
    exact lasts
  · rw [onward.readings, same]
    exact accepted
  · rw [after.held, stocks.held]

theorem backend_enter (r : Recorder) (j : Journal) :
    (r.enter j).2.store.backend = j.store.backend := by
  have same : (j.store.nextAdmission r.storeTimeout.millis).2.2.backend = j.store.backend := by
    unfold TraceStore.nextAdmission
    split <;> rfl
  exact same

theorem Lasting.enter (lasting : r.Lasting j) :
    r.Lasting (r.enter j).2 ∧ (r.enter j).2.held = j.held :=
  lasting.later (Clock.onward_wait _ _) (backend_enter r j)

/-- A load leaves what is due where it is, though it may drop what nobody can load. -/
theorem Lasting.loaded (lasting : r.Lasting j) (id : RequestId) :
    let after : Journal :=
      { j with clock := j.clock.tick, store := (j.store.load id j.clock.reading).2 }
    (j.store.load id j.clock.reading).1 = .ok (j.held id) ∧ r.Lasting after ∧
      after.held = j.held := by
  intro after
  obtain ⟨steady, lasts, accepted, due, stocks⟩ := lasting
  obtain ⟨-, serves, kind⟩ := TraceStore.load_spec stocks.serves id
  have onward : j.clock.Onward after.clock := Clock.onward_tick _
  have still : after.Stocks due :=
    ⟨serves.mono (steady.forward.reading_le onward), stocks.dated, stocks.live⟩
  refine ⟨?_, ⟨steady.onward onward, lasts, fun n => ?_, due, still⟩, funext fun other => ?_⟩
  · rw [stocks.fst_load, stocks.held]
  · exact (congrFun (congrFun kind _) _).trans (accepted n)
  · rw [still.held, stocks.held]

/-- What is saved is held from then on, and nothing else changes. -/
theorem Lasting.saved (lasting : r.Lasting j) {t : RequestTrace} (dated : t.Dated) (broken : Bool) :
    let after : Journal :=
      { j with
        clock := j.clock.tick
        store := (j.store.save t r.ttl j.clock.reading).2
        brokenOff := broken }
    (j.store.save t r.ttl j.clock.reading).1 = .ok () ∧ r.Lasting after ∧
      after.held = Function.update j.held t.requestId (some t) := by
  intro after
  obtain ⟨steady, lasts, accepted, due, stocks⟩ := lasting
  obtain ⟨done, serves, kind⟩ := TraceStore.save_of_accepted stocks.serves
    (steady.known j.clock.taken) dated (accepted j.clock.taken)
  have onward : j.clock.Onward after.clock := Clock.onward_tick _
  have still : after.Stocks
      (Function.update due t.requestId (some ⟨j.clock.reading.add r.ttl, t⟩)) := by
    refine ⟨serves.mono (steady.forward.reading_le onward), ?_, ?_⟩
    all_goals
      intro id e held
      rw [Function.update_apply] at held
      split at held
    · cases held
      exact dated
    · exact stocks.dated id e held
    · cases held
      exact lasts j.clock.taken
    · exact stocks.live id e held
  refine ⟨done, ⟨steady.onward onward, lasts, fun n => ?_, _, still⟩, funext fun other => ?_⟩
  · exact (congrFun (congrFun kind _) _).trans (accepted n)
  · rw [still.held, Function.update_apply, Function.update_apply, stocks.held]
    split <;> rfl

theorem Lasting.load (lasting : r.Lasting j) (id : RequestId) :
    r.Lasting (r.load id j).2 ∧ (r.load id j).2.held = j.held ∧
      ∀ t, (r.load id j).1 = .ok t → t = j.held id := by
  obtain ⟨entered, same⟩ := lasting.enter
  unfold Recorder.load
  rcases equal : r.enter j with ⟨_ | f, k⟩
  · rw [equal] at entered same
    obtain ⟨found, still, heldLater⟩ := entered.loaded id
    refine ⟨still, heldLater.trans same, fun t loaded => ?_⟩
    rw [← congrFun same id]
    exact Except.ok.inj (loaded.symm.trans found)
  · rw [equal] at entered same
    exact ⟨entered, same, fun t found => by cases found⟩

theorem Lasting.save (lasting : r.Lasting j) {t : RequestTrace} (dated : t.Dated) :
    r.Lasting (r.save t j).2 ∧ (r.save t j).2.held =
      match (r.save t j).1 with
      | .ok _ => Function.update j.held t.requestId (some t)
      | .error _ => j.held := by
  obtain ⟨entered, same⟩ := lasting.enter
  unfold Recorder.save
  rcases equal : r.enter j with ⟨_ | f, k⟩
  · rw [equal] at entered same
    obtain ⟨done, still, heldLater⟩ :=
      entered.saved dated (k.brokenOff || StoreFailure.breaksOff (.ok ()))
    dsimp only at same done still heldLater ⊢
    rw [done, ← same]
    exact ⟨still, heldLater⟩
  · rw [equal] at entered same
    exact ⟨entered, same⟩

/-- A store of either kind loses nothing while nothing expires. -/
theorem retains_lasting (r : Recorder) : r.Retains r.Lasting where
  known lasting := lasting.steady.known
  dated lasting id t held := by
    obtain ⟨due, stocks⟩ := lasting.stocks
    rw [stocks.held] at held
    obtain ⟨e, found, rfl⟩ := Option.map_eq_some_iff.1 held
    exact stocks.dated id e found
  load lasting := lasting.load
  save lasting _ dated := lasting.save dated
  pass lasting store onward := lasting.later onward (by rw [store])

/-- Where nothing expires, no use of the recorder ends the program. -/
theorem Lasting.brokenOff_perform (lasting : r.Lasting j) {id : RequestId}
    (named : ∀ t ∈ j.held id, t.requestId = id) (once : ((j.steps id).map Step.stepId).Nodup)
    {a : Recording} (dated : a.Dated) : (r.perform id a j).2.brokenOff = j.brokenOff := by
  have drafted := (draft_spec (retains_lasting r) lasting named once dated).sound
  have before := brokenOff_draft r id j a
  have accepted := drafted.enter.1.accepted (r.enter (r.draft id a j).2).2.clock.taken
  unfold perform
  rcases draft : r.draft id a j with ⟨d, k⟩
  rw [draft] at before accepted
  cases d with
  | settled answer => exact before
  | pending t answer =>
    rw [snd_commit_pending, Bool.eq_iff_iff, brokenOff_save_iff, before]
    refine or_iff_left fun broken => ?_
    exact Option.some_ne_none _ (broken.2.symm.trans accepted)

/-- A store in which nothing expires and every operation is carried out. -/
structure Healthy (r : Recorder) (j : Journal) : Prop where
  lasting : r.Lasting j
  inTime : ∀ d ∈ j.store.script.getD [],
    (TraceStore.admission r.storeTimeout.millis d).1 = .carriedOut

/-- The script of a store only becomes shorter. -/
theorem script_enter (r : Recorder) (j : Journal) :
    ∀ d ∈ (r.enter j).2.store.script.getD [], d ∈ j.store.script.getD [] := by
  intro d member
  have left : (r.enter j).2.store.script = j.store.script.map List.tail := by
    rcases script : j.store.script with _ | _ | ⟨first, rest⟩ <;>
      simp [enter, TraceStore.nextAdmission, script]
  rw [left] at member
  cases script : j.store.script with
  | none =>
    rw [script] at member
    cases member
  | some entries =>
    rw [script] at member
    exact List.mem_of_mem_tail member

theorem Healthy.carriedOut (healthy : r.Healthy j) : (r.enter j).1 = .carriedOut := by
  cases script : j.store.script with
  | none => simp [enter, TraceStore.nextAdmission, script]
  | some entries =>
    cases entries with
    | nil => simp [enter, TraceStore.nextAdmission, script]
    | cons d rest =>
      have first := healthy.inTime d (by simp [script])
      simp [enter, TraceStore.nextAdmission, script, first]

theorem Healthy.touched (healthy : r.Healthy j) (touches : Touches r j k) (lasting : r.Lasting k) :
    r.Healthy k := by
  refine ⟨lasting, fun d member => healthy.inTime d (script_enter r j d ?_)⟩
  cases touches with
  | entered => exact member
  | carriedOut store broken script =>
    dsimp only at member
    rwa [script] at member

theorem retains_healthy (r : Recorder) : r.Retains r.Healthy where
  known healthy := (retains_lasting r).known healthy.lasting
  dated healthy := (retains_lasting r).dated healthy.lasting
  load {j} healthy id := by
    obtain ⟨still, same, found⟩ := healthy.lasting.load id
    exact ⟨healthy.touched (load_touches r id j) still, same, found⟩
  save {j} healthy t dated := by
    obtain ⟨still, same⟩ := healthy.lasting.save dated
    exact ⟨healthy.touched (save_touches r t j) still, same⟩
  pass healthy store onward := by
    obtain ⟨still, same⟩ := (retains_lasting r).pass healthy.lasting store onward
    exact ⟨⟨still, store ▸ healthy.inTime⟩, same⟩

/-- Nothing fails on a store that carries out every operation and keeps what is saved. -/
theorem not_falters_healthy (r : Recorder) : ¬ r.Falters r.Healthy := by
  intro falters
  obtain ⟨j, healthy, fault⟩ := falters
  have admitted := healthy.carriedOut
  obtain ⟨entered, -⟩ := healthy.lasting.enter
  rcases equal : r.enter j with ⟨admission, k⟩
  rw [equal] at admitted entered
  dsimp only at admitted entered
  subst admitted
  rcases fault with ⟨id, f, failed⟩ | ⟨t, f, dated, failed⟩
  · simp only [Recorder.load, equal, (entered.loaded id).1] at failed
    cases failed
  · simp only [Recorder.save, equal, (entered.saved dated k.brokenOff).1] at failed
    cases failed

/-- Nothing expires while the clock stands still. -/
theorem lasting_still {t : Timestamp} (still : ∀ n, j.clock.readings n = t)
    (known : t.inCalendar = true) (kept : t < t.add r.ttl) (fresh : j.store.backend.New)
    (accepted : j.store.backend.refusal? r.ttl t = none) : r.Lasting j := by
  refine ⟨⟨fun m n _ => ?_, fun n => ?_⟩, fun m n => ?_, fun n => ?_, fun _ => none, ?_⟩
  · rw [still, still]
    exact Timestamp.le_refl t
  · rw [still]
    exact known
  · rw [still, still]
    exact kept
  · rw [still]
    exact accepted
  · refine ⟨fresh.serves _, ?_, ?_⟩
    · intro id e held
      cases held
    · intro id e held
      cases held

end Recorder

namespace World

theorem forward_rehearsal (script : List Disturbance) : (rehearsal script).clock.Forward :=
  fun _ _ _ => Timestamp.le_refl _

theorem held_rehearsal (script : List Disturbance) (id : RequestId) :
    (rehearsal script).journal.held id = none := rfl

theorem lasting_rehearsal (script : List Disturbance) :
    Coordinator.rehearsal.recorder.Lasting (rehearsal script).journal :=
  Recorder.lasting_still (fun _ => rfl) (by decide) (by decide) (.memory _ _)
    (show MemoryStore.refusal? _ _ = none by decide)

theorem healthy_rehearsal {script : List Disturbance}
    (inTime : ∀ d ∈ script, (TraceStore.admission 5 d).1 = .carriedOut) :
    Coordinator.rehearsal.recorder.Healthy (rehearsal script).journal :=
  ⟨lasting_rehearsal script, inTime⟩

def durableRehearsal (script : List Disturbance) : World :=
  { rehearsal script with journal := ⟨Clock.start fun _ => ⟨0, 0⟩,
      { TraceStore.durable ⟨0, 0⟩ with script := some script }, 0, false⟩ }

theorem lasting_durableRehearsal (script : List Disturbance) :
    Coordinator.rehearsal.recorder.Lasting (durableRehearsal script).journal :=
  Recorder.lasting_still (fun _ => rfl) (by decide) (by decide) (.durable _ _)
    (show DurableStore.refusal? _ _ = none by decide)

theorem healthy_durableRehearsal {script : List Disturbance}
    (inTime : ∀ d ∈ script, (TraceStore.admission 5 d).1 = .carriedOut) :
    Coordinator.rehearsal.recorder.Healthy (durableRehearsal script).journal :=
  ⟨lasting_durableRehearsal script, inTime⟩

theorem held_durableRehearsal (script : List Disturbance) (id : RequestId) :
    (durableRehearsal script).journal.held id = none := rfl

end World

end RollCall
