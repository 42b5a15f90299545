import RollCall.Proofs.AppendOnly

set_option autoImplicit false

/-!
One journal over two stores of a kind. What the recorder makes of a request depends on what is due
under that request alone, so where the stores agree on it the recorder answers alike and leaves them
agreeing, whatever else they hold and however they are swept.
-/
namespace RollCall

variable {due due' : RequestId → Option Record} {now : Timestamp}

namespace Backend

def purge (now : Timestamp) : Backend → Backend
  | .memory m => .memory (m.purge now).2
  | .durable d => .durable (d.purge now).2

inductive Fresh : Backend → Backend → Prop
  | memory (interval : Span) (opened : Timestamp) (interval' : Span) (opened' : Timestamp) :
    Fresh (.memory (MemoryStore.empty interval opened)) (.memory (MemoryStore.empty interval' opened'))
  | durable (interval : Span) (opened : Timestamp) (interval' : Span) (opened' : Timestamp) :
    Fresh (.durable (DurableStore.empty .json interval opened))
      (.durable (DurableStore.empty .json interval' opened'))

theorem Serves.purge {b : Backend} (serves : b.Serves due now) :
    (b.purge now).Serves due now := by
  cases b with
  | memory m => exact MemoryStore.Serves.purge serves
  | durable d => exact DurableStore.Serves.purge serves

@[simp] theorem refusal?_purge (b : Backend) (now : Timestamp) :
    (b.purge now).refusal? = b.refusal? := by
  cases b <;> rfl

end Backend

def Journal.over (j : Journal) (b : Backend) : Journal :=
  { j with store := { j.store with backend := b } }

/-- A trace bears the name of its request, and the calendar has its instants. -/
structure RequestTrace.Fits (id : RequestId) (t : RequestTrace) : Prop where
  named : t.requestId = id
  dated : t.Dated

theorem RequestTrace.fits_append {id : RequestId} {o : Option RequestTrace}
    (fits : ∀ t ∈ o, t.Fits id) {steps : List Step} (dated : ∀ s ∈ steps, s.Dated) :
    ((o.getD (empty id)).append steps).Fits id := by
  refine ⟨?_, dated_append (fun t held => (fits t held).dated) dated⟩
  cases o with
  | none => rfl
  | some t => exact (fits t rfl).named

/--
One journal over two stores of a kind. Each store serves what is due to it, and the clock is good
for both.
-/
structure Beside (due due' : RequestId → Option Record) (j : Journal) (b : Backend) : Prop where
  steady : j.clock.Steady
  kind : b.refusal? = j.store.backend.refusal?
  here : j.store.backend.Serves due j.clock.reading
  there : b.Serves due' j.clock.reading

namespace Beside

variable {j k : Journal} {b : Backend}

/-- A journal beside itself. -/
theorem refl (steady : j.clock.Steady) (serves : j.store.backend.Serves due j.clock.reading) :
    Beside due due j j.store.backend :=
  ⟨steady, rfl, serves, serves⟩

theorem later (beside : Beside due due' j b) (onward : j.clock.Onward k.clock)
    (same : k.store.backend = j.store.backend) : Beside due due' k b := by
  have le := beside.steady.forward.reading_le onward
  refine ⟨beside.steady.onward onward, ?_, ?_, beside.there.mono le⟩
  · rw [same]
    exact beside.kind
  · rw [same]
    exact beside.here.mono le

end Beside

/--
An operation that goes alike over both stores: the same answer, and journals that still differ in
their stores alone.
-/
structure Alongside {α : Type} (op : Journal → α × Journal) (j : Journal) (b b' : Backend) :
    Prop where
  same : op (j.over b) = ((op j).1, (op j).2.over b')
  onward : j.clock.Onward (op j).2.clock
  kind : b'.refusal? = b.refusal?

theorem Alongside.of_eq {α : Type} {op : Journal → α × Journal} {j k : Journal} {b b' : Backend}
    {answer : α} (here : op j = (answer, k)) (there : op (j.over b) = (answer, k.over b'))
    (onward : j.clock.Onward k.clock) (kind : b'.refusal? = b.refusal?) : Alongside op j b b' := by
  refine ⟨?_, ?_, kind⟩
  · rw [here, there]
  · rw [here]
    exact onward

theorem Alongside.map {α β : Type} {op : Journal → α × Journal} {j : Journal} {b b' : Backend}
    (alongside : Alongside op j b b') (f : α → β) :
    Alongside (fun j => (f (op j).1, (op j).2)) j b b' := by
  refine ⟨?_, alongside.onward, alongside.kind⟩
  simp only [alongside.same]

namespace Recorder

variable {r : Recorder} {id : RequestId} {j : Journal} {b : Backend}

theorem enter_over (r : Recorder) (j : Journal) (b : Backend) :
    r.enter (j.over b) = ((r.enter j).1, (r.enter j).2.over b) := by
  unfold enter TraceStore.nextAdmission
  rcases script : j.store.script with _ | _ | ⟨d, rest⟩ <;> simp only [Journal.over, script]

/-- An operation of the store that is carried out over both stores. -/
theorem over_of_script {α : Type} {op : Journal → α × Journal} {k : Journal} {answer : α}
    {store store' : TraceStore} (here : op j = (answer, { k with store := store }))
    (there : op (j.over b) = (answer, { k with store := store' }))
    (script : store'.script = store.script) :
    op (j.over b) = ((op j).1, (op j).2.over store'.backend) := by
  rw [here, there]
  obtain ⟨backend', script'⟩ := store'
  cases script
  rfl

theorem load_beside (beside : Beside due due' j b) (same : due' id = due id) :
    ∃ b', Alongside (r.load id) j b b' ∧ Beside due due' (r.load id j).2 b' ∧
      ∀ t, (r.load id j).1 = .ok (some t) → ∃ e ∈ due id, e.trace = t := by
  have entered : Beside due due' (r.enter j).2 b :=
    beside.later (Clock.onward_wait _ _) (backend_enter r j)
  have onward : j.clock.Onward (r.enter j).2.clock := Clock.onward_wait _ _
  have twin := enter_over r j b
  rcases equal : r.enter j with ⟨admission, k⟩
  rw [equal] at entered onward twin
  cases admission with
  | failed f =>
    have here : r.load id j = (.error f, k) := by rw [load, equal]
    have there : r.load id (j.over b) = (.error f, k.over b) := by rw [load, twin]
    refine ⟨b, .of_eq here there onward rfl, ?_⟩
    rw [here]
    exact ⟨entered, fun t found => by cases found⟩
  | carriedOut =>
    obtain ⟨found, still, kind⟩ := TraceStore.load_spec entered.here id
    obtain ⟨found', still', kind'⟩ :=
      TraceStore.load_spec (s := (k.over b).store) entered.there id
    rw [same] at found'
    have here : r.load id j = (.ok (((due id).filter (·.isLive k.clock.reading)).map Record.trace),
        { { k with clock := k.clock.tick } with store := (k.store.load id k.clock.reading).2 }) := by
      rw [load, equal, ← found]
    have there : r.load id (j.over b) =
        (.ok (((due id).filter (·.isLive k.clock.reading)).map Record.trace),
          { { k with clock := k.clock.tick } with
            store := ((k.over b).store.load id k.clock.reading).2 }) := by
      rw [load, twin, ← found']
      rfl
    have script : ((k.over b).store.load id k.clock.reading).2.script =
        (k.store.load id k.clock.reading).2.script := by
      rw [script_load, script_load]
      rfl
    have ticked := Clock.onward_tick k.clock
    have le := entered.steady.forward.reading_le ticked
    refine ⟨_, ⟨over_of_script here there script, ?_, kind'⟩, ?_, ?_⟩
    · rw [here]
      exact onward.trans ticked
    · rw [here]
      refine ⟨entered.steady.onward ticked, ?_, still.mono le, still'.mono le⟩
      rw [kind', kind]
      exact entered.kind
    · intro t loaded
      rw [here] at loaded
      obtain ⟨e, live, rfl⟩ := Option.map_eq_some_iff.1 (Except.ok.inj loaded)
      exact ⟨e, (Option.filter_eq_some_iff.1 live).1, rfl⟩

/-- What is due once a trace has been written, if there was one to write, or has not. -/
inductive Writes (o : Option RequestTrace) (due due' : RequestId → Option Record) :
    (RequestId → Option Record) → (RequestId → Option Record) → Prop
  | nothing : Writes o due due' due due'
  | trace (t : RequestTrace) (e : Record) (pending : t ∈ o) (held : e.trace = t) :
    Writes o due due' (Function.update due t.requestId (some e))
      (Function.update due' t.requestId (some e))

def written (r : Recorder) (t : RequestTrace) (j : Journal) : Bool × Journal :=
  let (done, j) := r.save t j
  (done.isOk, j)

theorem written_beside (beside : Beside due due' j b) {t : RequestTrace} (dated : t.Dated) :
    ∃ b' next next', Alongside (r.written t) j b b' ∧ Writes (some t) due due' next next' ∧
      Beside next next' (r.written t j).2 b' := by
  have entered : Beside due due' (r.enter j).2 b :=
    beside.later (Clock.onward_wait _ _) (backend_enter r j)
  have onward : j.clock.Onward (r.enter j).2.clock := Clock.onward_wait _ _
  have twin := enter_over r j b
  rcases equal : r.enter j with ⟨admission, k⟩
  rw [equal] at entered onward twin
  cases admission with
  | failed f =>
    have here : r.written t j = (false, k) := by
      rw [written, save, equal]
      rfl
    have there : r.written t (j.over b) = (false, k.over b) := by
      rw [written, save, twin]
      rfl
    refine ⟨b, due, due', .of_eq here there onward rfl, .nothing, ?_⟩
    rw [here]
    exact entered
  | carriedOut =>
    have ticked := Clock.onward_tick k.clock
    have clock : (k.over b).clock = k.clock := rfl
    have alike : (k.over b).store.backend.refusal? r.ttl k.clock.reading =
        k.store.backend.refusal? r.ttl k.clock.reading :=
      congrFun (congrFun entered.kind _) _
    cases refusal : k.store.backend.refusal? r.ttl k.clock.reading with
    | none =>
      have known := entered.steady.known k.clock.taken
      have le := entered.steady.forward.reading_le ticked
      obtain ⟨done, still, kind⟩ := TraceStore.save_of_accepted entered.here known dated refusal
      obtain ⟨done', still', kind'⟩ :=
        TraceStore.save_of_accepted (s := (k.over b).store) entered.there known dated
          (alike.trans refusal)
      have here : r.written t j = (true, { { k with
          clock := k.clock.tick, brokenOff := k.brokenOff || StoreFailure.breaksOff (.ok ()) } with
          store := (k.store.save t r.ttl k.clock.reading).2 }) := by
        simp only [written, save, equal, done]
        rfl
      have there : r.written t (j.over b) = (true, { { k with
          clock := k.clock.tick, brokenOff := k.brokenOff || StoreFailure.breaksOff (.ok ()) } with
          store := ((k.over b).store.save t r.ttl k.clock.reading).2 }) := by
        simp only [written, save, twin, clock, done']
        rfl
      have script : ((k.over b).store.save t r.ttl k.clock.reading).2.script =
          (k.store.save t r.ttl k.clock.reading).2.script := by
        rw [script_save, script_save]
        rfl
      refine ⟨_, _, _, ⟨over_of_script here there script, ?_, kind'⟩,
        .trace t ⟨k.clock.reading.add r.ttl, t⟩ rfl rfl, ?_⟩
      · rw [here]
        exact onward.trans ticked
      · rw [here]
        refine ⟨entered.steady.onward ticked, ?_, still.mono le, still'.mono le⟩
        rw [kind', kind]
        exact entered.kind
    | some fault =>
      have left := TraceStore.save_of_refused refusal t
      have left' := TraceStore.save_of_refused (alike.trans refusal) t
      let after : Journal := { k with
        clock := k.clock.tick
        brokenOff := k.brokenOff || StoreFailure.breaksOff (.error (.notRetained fault)) }
      have here : r.written t j = (false, after) := by
        simp only [written, save, equal, left]
        rfl
      have there : r.written t (j.over b) = (false, after.over b) := by
        simp only [written, save, twin, clock, left']
        rfl
      refine ⟨b, due, due', .of_eq here there (onward.trans ticked) rfl, .nothing, ?_⟩
      rw [here]
      exact entered.later ticked rfl

theorem commit_beside (beside : Beside due due' j b) {d : Draft}
    (dated : ∀ t ∈ d.trace?, t.Dated) :
    ∃ b' next next', Alongside (r.commit d) j b b' ∧ Writes d.trace? due due' next next' ∧
      Beside next next' (r.commit d j).2 b' := by
  cases d with
  | settled answer => exact ⟨b, due, due', ⟨rfl, Clock.Onward.refl _, rfl⟩, .nothing, beside⟩
  | pending t answer =>
    obtain ⟨b', next, next', alongside, writes, still⟩ :=
      written_beside (r := r) beside (dated t rfl)
    have commits : r.commit (.pending t answer) = fun j =>
        (if (r.written t j).1 then answer else answer.map fun _ => none, (r.written t j).2) := by
      funext j
      rcases saved : r.save t j with ⟨_ | _, k⟩
      · simp only [commit, written, saved]
        rfl
      · simp only [commit, written, saved]
        rfl
    rw [commits]
    exact ⟨b', next, next',
      alongside.map fun done => if done then answer else answer.map fun _ => none, writes, still⟩

/-- What is drafted on a journal goes alike over both stores, and what is to be written fits. -/
def DraftsBeside (draft : Journal → Draft × Journal) (id : RequestId)
    (due due' : RequestId → Option Record) (j : Journal) (b : Backend) : Prop :=
  ∃ b', Alongside draft j b b' ∧ Beside due due' (draft j).2 b' ∧ ∀ t ∈ (draft j).1.trace?, t.Fits id

theorem DraftsBeside.of_eq {draft : Journal → Draft × Journal} {k : Journal} {b' : Backend} {d : Draft}
    (here : draft j = (d, k)) (there : draft (j.over b) = (d, k.over b'))
    (onward : j.clock.Onward k.clock) (kind : b'.refusal? = b.refusal?) (still : Beside due due' k b')
    (fits : ∀ t ∈ d.trace?, t.Fits id) : DraftsBeside draft id due due' j b := by
  refine ⟨b', .of_eq here there onward kind, ?_⟩
  rw [here]
  exact ⟨still, fits⟩

theorem draftsBeside_nothing (beside : Beside due due' j b) (answer : List (Option StepId)) :
    DraftsBeside (fun j => (.settled answer, j)) id due due' j b :=
  ⟨b, ⟨rfl, Clock.Onward.refl _, rfl⟩, beside, fun t none => by cases none⟩

theorem draftSteps_beside (beside : Beside due due' j b) (same : due' id = due id)
    (fits : ∀ e ∈ due id, e.trace.Fits id) {steps : List Step} (dated : ∀ s ∈ steps, s.Dated) :
    DraftsBeside (r.draftSteps id steps) id due due' j b := by
  obtain ⟨b', ⟨twin, onward, kind⟩, still, found⟩ := load_beside (r := r) beside same
  rcases equal : r.load id j with ⟨answer, k⟩
  rw [equal] at twin onward still found
  cases answer with
  | error f =>
    have here : r.draftSteps id steps j = (.settled (steps.map fun _ => none), k) := by
      rw [draftSteps, equal]
    exact .of_eq here (by rw [draftSteps, twin]) onward kind still fun t none => by cases none
  | ok o =>
    have here : r.draftSteps id steps j =
        (.pending ((o.getD (RequestTrace.empty id)).append steps)
          (steps.map fun s => some s.stepId), k) := by
      rw [draftSteps, equal]
    refine .of_eq here (by rw [draftSteps, twin]) onward kind still fun t written => ?_
    cases written
    refine RequestTrace.fits_append (fun t held => ?_) dated
    obtain ⟨e, member, rfl⟩ := found t (congrArg Except.ok held)
    exact fits e member

theorem openAll_over (participants : List String) (j : Journal) (b : Backend) :
    (j.over b).openAll participants =
      ((j.openAll participants).1, (j.openAll participants).2.over b) := by
  induction participants generalizing j with
  | nil => rfl
  | cons participant rest ih =>
    have next := ih { j with clock := j.clock.tick, stepCount := j.stepCount + 1 }
    rw [Journal.openAll, Journal.openAll]
    exact congrArg (fun p : List Step × Journal =>
      (Step.started (Journal.stepId j.stepCount) participant j.clock.reading :: p.1, p.2)) next

/-- Readings and identifiers are taken first. -/
theorem DraftsBeside.after {draft : Journal → Draft × Journal} {k : Journal}
    (drafts : DraftsBeside draft id due due' k b) (onward : j.clock.Onward k.clock)
    {whole : Journal → Draft × Journal} (here : whole j = draft k)
    (there : whole (j.over b) = draft (k.over b)) : DraftsBeside whole id due due' j b := by
  obtain ⟨b', ⟨twin, later, kind⟩, still, fits⟩ := drafts
  exact .of_eq here (there.trans twin) (onward.trans later) kind still fits

theorem draft_close_beside (beside : Beside due due' j b) (same : due' id = due id)
    (fits : ∀ e ∈ due id, e.trace.Fits id) {closes : List (Option StepId × Bool)}
    (asked : ¬ (id.isBlank || closes.all fun c => c.1.isNone) = true) :
    DraftsBeside (r.draft id (.close closes)) id due due' j b := by
  obtain ⟨b', ⟨twin, onward, kind⟩, still, found⟩ := load_beside (r := r) beside same
  rcases equal : r.load id j with ⟨answer, k⟩
  rw [equal] at twin onward still found
  have settles (here : r.draft id (.close closes) j = (.settled [], k))
      (there : r.draft id (.close closes) (j.over b) = (.settled [], k.over b')) :
      DraftsBeside (r.draft id (.close closes)) id due due' j b :=
    .of_eq here there onward kind still fun t none => by cases none
  rcases answer with f | _ | t
  · exact settles (by simp only [draft, asked, equal]; rfl) (by simp only [draft, asked, twin]; rfl)
  · exact settles (by simp only [draft, asked, equal]; rfl) (by simp only [draft, asked, twin]; rfl)
  · obtain ⟨e, member, rfl⟩ := found t rfl
    have closed := dated_closeAll closes still.steady.known (fits e member).dated
    have later := onward_closeAll closes e.trace.steps k.clock
    have clock : (k.over b').clock = k.clock := rfl
    rcases result : closeAll closes e.trace.steps k.clock with ⟨steps, _ | _, read⟩
    · exact settles (by simp only [draft, asked, equal, result]; rfl)
        (by simp only [draft, asked, twin, clock, result]; rfl)
    · rw [result] at closed later
      have here : r.draft id (.close closes) j =
          (.pending { e.trace with steps := steps } [], { k with clock := read }) := by
        simp only [draft, asked, equal, result]
        rfl
      have there : r.draft id (.close closes) (j.over b) =
          (.pending { e.trace with steps := steps } [], { k with clock := read }.over b') := by
        simp only [draft, asked, twin, clock, result]
        rfl
      refine .of_eq here there (onward.trans later) kind (still.later later rfl) fun t written => ?_
      cases written
      exact ⟨(fits e member).named, closed⟩

theorem draft_beside (beside : Beside due due' j b) (same : due' id = due id)
    (fits : ∀ e ∈ due id, e.trace.Fits id) {a : Recording} (dated : a.Dated) :
    DraftsBeside (r.draft id a) id due due' j b := by
  cases a with
  | start participants =>
    by_cases blank : id.isBlank = true
    · exact (draftsBeside_nothing beside (participants.map fun _ => none)).after
        (Clock.Onward.refl _) (if_pos blank) (if_pos blank)
    · have onward : j.clock.Onward (j.openAll participants).2.clock := by
        rw [Journal.snd_openAll]
        exact ⟨rfl, Nat.le_add_right _ _⟩
      have opened : Beside due due' (j.openAll participants).2 b :=
        beside.later onward (by rw [Journal.snd_openAll])
      refine (draftSteps_beside (r := r) opened same fits
        (Journal.dated_openAll participants beside.steady.known)).after onward (if_neg blank) ?_
      rw [draft, if_neg blank, openAll_over]
  | finished participant startTime success =>
    by_cases blank : id.isBlank = true
    · exact (draftsBeside_nothing beside [none]).after
        (Clock.Onward.refl _) (if_pos blank) (if_pos blank)
    · have ticked := Clock.onward_tick j.clock
      have opened : Beside due due' { j with clock := j.clock.tick, stepCount := j.stepCount + 1 } b :=
        beside.later ticked rfl
      refine (draftSteps_beside (r := r) opened same fits ?_).after ticked (if_neg blank)
        (if_neg blank)
      exact List.forall_mem_singleton.2
        (Step.dated_finished _ _ dated (beside.steady.known _) _)
  | close closes =>
    by_cases asked : (id.isBlank || closes.all fun c => c.1.isNone) = true
    · exact (draftsBeside_nothing beside []).after
        (Clock.Onward.refl _) (if_pos asked) (if_pos asked)
    · exact draft_close_beside beside same fits asked

end Recorder

end RollCall
