import RollCall.Proofs.Beside

set_option autoImplicit false

/-!
Requests that share a store. The accesses of their calls may be mixed at will, writes sweep the
whole store and purges come at any time; still each request has the trace, and its callers the
answers, that it would have had on a store of its own.
-/
namespace RollCall

variable {ι : Type}

structure Recorder.Call where
  recorder : Recorder
  requestId : RequestId
  use : Recorder.Use

inductive Progress where
  | waiting
  | drafted (d : Draft)
  | answered (answer : List (Option StepId))
  /-- A look at the trace has shown it. -/
  | shown (trace : RequestTrace)

namespace Recorder.Call

def access (c : Call) (p : Progress) (j : Journal) : Progress × Journal :=
  match p with
  | .waiting =>
    match c.use with
    | .look =>
      let (t, j) := c.recorder.trace c.requestId j
      (.shown t, j)
    | u =>
      let (d, j) := c.recorder.draft c.requestId u.recording j
      (.drafted d, j)
  | .drafted d =>
    let (answer, j) := c.recorder.commit d j
    (.answered answer, j)
  | done => (done, j)

end Recorder.Call

/-- What can happen to a shared store. -/
inductive Turn (ι : Type) where
  | access (i : ι)
  | purge

/-- Calls under way, with the journal that they share. -/
structure Sharing (ι : Type) where
  journal : Journal
  progress : ι → Progress

def Journal.purge (j : Journal) : Journal :=
  { j.over (j.store.backend.purge j.clock.reading) with clock := j.clock.tick }

namespace Sharing

variable [DecidableEq ι] (calls : ι → Recorder.Call)

def start (j : Journal) : Sharing ι := ⟨j, fun _ => .waiting⟩

def turn (s : Sharing ι) : Turn ι → Sharing ι
  | .access i =>
    let (p, j) := (calls i).access (s.progress i) s.journal
    ⟨j, Function.update s.progress i p⟩
  | .purge => ⟨s.journal.purge, s.progress⟩

theorem turn_access (s : Sharing ι) (i : ι) : s.turn calls (.access i) =
    ⟨((calls i).access (s.progress i) s.journal).2,
      Function.update s.progress i ((calls i).access (s.progress i) s.journal).1⟩ := rfl

def run (schedule : List (Turn ι)) (s : Sharing ι) : Sharing ι := schedule.foldl (turn calls) s

/-- The accesses of a family of requests, each with the journal as it was then. -/
def occasions (family : RequestId → Prop) [DecidablePred family] :
    List (Turn ι) → Sharing ι → List (ι × Journal)
  | [], _ => []
  | .access i :: rest, s =>
    let later := occasions family rest (s.turn calls (.access i))
    if family (calls i).requestId then (i, s.journal) :: later else later
  | .purge :: rest, s => occasions family rest (s.turn calls .purge)

end Sharing

/-- Calls under way that have a store to themselves. -/
structure Alone (ι : Type) where
  backend : Backend
  progress : ι → Progress

namespace Alone

variable [DecidableEq ι] (calls : ι → Recorder.Call)

def start (b : Backend) : Alone ι := ⟨b, fun _ => .waiting⟩

/--
An access at the time of another, with the identifiers and the disturbances that the other met, but
on the store of its own.
-/
def access (a : Alone ι) (occasion : ι × Journal) : Alone ι :=
  let (p, j) := (calls occasion.1).access (a.progress occasion.1) (occasion.2.over a.backend)
  ⟨j.store.backend, Function.update a.progress occasion.1 p⟩

def replay (occasions : List (ι × Journal)) (a : Alone ι) : Alone ι :=
  occasions.foldl (access calls) a

end Alone

/-- What a call has drafted fits its request. -/
def Progress.Fits (id : RequestId) (p : Progress) : Prop :=
  ∀ d, p = .drafted d → ∀ t ∈ d.trace?, t.Fits id

/-- What is due under a request may have been written anew, alike on both sides. -/
inductive Notes (id : RequestId) (due due' : RequestId → Option Record) :
    (RequestId → Option Record) → (RequestId → Option Record) → Prop
  | nothing : Notes id due due' due due'
  | record (e : Record) (fits : e.trace.Fits id) :
    Notes id due due' (Function.update due id (some e)) (Function.update due' id (some e))

variable {due due' next next' : RequestId → Option Record} {j : Journal} {b : Backend}

def RequestTrace.ofLoad (id : RequestId) : Except StoreFailure (Option RequestTrace) → RequestTrace
  | .ok (some t) => t.sorted
  | _ => RequestTrace.empty id

theorem Recorder.trace_eq (r : Recorder) (id : RequestId) (j : Journal) :
    r.trace id j = (RequestTrace.ofLoad id (r.load id j).1, (r.load id j).2) := by
  unfold trace
  rcases r.load id j with ⟨_ | _ | t, k⟩ <;> rfl

namespace Recorder.Call

theorem look_beside (c : Call) (looks : c.use = .look) (beside : Beside due due' j b)
    (same : due' c.requestId = due c.requestId) :
    ∃ b', Alongside (c.access .waiting) j b b' ∧ Beside due due' (c.access .waiting j).2 b' ∧
      (c.access .waiting j).1.Fits c.requestId := by
  obtain ⟨b', alongside, still, -⟩ := load_beside (r := c.recorder) beside same
  have looked : c.access .waiting = fun j =>
      (.shown (RequestTrace.ofLoad c.requestId (c.recorder.load c.requestId j).1),
        (c.recorder.load c.requestId j).2) := by
    funext j
    simp only [access, looks, trace_eq]
  rw [looked]
  exact ⟨b', alongside.map fun o => Progress.shown (RequestTrace.ofLoad c.requestId o), still,
    fun d drafted => by cases drafted⟩

theorem draft_beside (c : Call) (dated : c.use.Dated) (asks : c.use ≠ .look)
    (beside : Beside due due' j b) (same : due' c.requestId = due c.requestId)
    (fits : ∀ e ∈ due c.requestId, e.trace.Fits c.requestId) :
    ∃ b', Alongside (c.access .waiting) j b b' ∧ Beside due due' (c.access .waiting j).2 b' ∧
      (c.access .waiting j).1.Fits c.requestId := by
  obtain ⟨b', alongside, still, drafts⟩ :=
    Recorder.draft_beside (r := c.recorder) beside same fits dated
  have drafted : c.access .waiting = fun j =>
      (.drafted (c.recorder.draft c.requestId c.use.recording j).1,
        (c.recorder.draft c.requestId c.use.recording j).2) := by
    funext j
    cases use : c.use with
    | look => exact absurd use asks
    | start participants => simp only [access, use]
    | record participant startTime success => simp only [access, use]
    | close closes => simp only [access, use]
  rw [drafted]
  refine ⟨b', alongside.map _, still, fun d same => ?_⟩
  cases same
  exact drafts

/-- An access goes alike over both stores where they agree on the request. -/
theorem access_beside (c : Call) (dated : c.use.Dated) (beside : Beside due due' j b)
    (same : due' c.requestId = due c.requestId)
    (fits : ∀ e ∈ due c.requestId, e.trace.Fits c.requestId) {p : Progress}
    (drafted : p.Fits c.requestId) :
    ∃ b' next next', Alongside (c.access p) j b b' ∧ Notes c.requestId due due' next next' ∧
      Beside next next' (c.access p j).2 b' ∧ (c.access p j).1.Fits c.requestId := by
  cases p with
  | waiting =>
    by_cases looks : c.use = .look
    · obtain ⟨b', alongside, still, after⟩ := c.look_beside looks beside same
      exact ⟨b', due, due', alongside, .nothing, still, after⟩
    · obtain ⟨b', alongside, still, after⟩ := c.draft_beside dated looks beside same fits
      exact ⟨b', due, due', alongside, .nothing, still, after⟩
  | drafted d =>
    obtain ⟨b', next, next', alongside, writes, still⟩ :=
      commit_beside (r := c.recorder) beside fun t pending => (drafted d rfl t pending).dated
    refine ⟨b', next, next', alongside.map _, ?_, still, fun d again => by cases again⟩
    cases writes with
    | nothing => exact .nothing
    | trace t e pending held =>
      have named := (drafted d rfl t pending).named
      rw [named]
      exact .record e (held ▸ drafted d rfl t pending)
  | answered answer =>
    exact ⟨b, due, due', ⟨rfl, Clock.Onward.refl _, rfl⟩, .nothing, beside, drafted⟩
  | shown trace =>
    exact ⟨b, due, due', ⟨rfl, Clock.Onward.refl _, rfl⟩, .nothing, beside, drafted⟩

end Recorder.Call

/--
Calls that share a store beside those of a family of requests on a store of their own. Nothing is
due under the requests of the family but what is due there too.
-/
structure Apart (calls : ι → Recorder.Call) (family : RequestId → Prop) (s : Sharing ι)
    (a : Alone ι) (due due' : RequestId → Option Record) : Prop where
  beside : Beside due due' s.journal a.backend
  same : ∀ id, family id → due' id = due id
  fits : ∀ id, ∀ e ∈ due id, e.trace.Fits id
  drafts : ∀ i, (s.progress i).Fits (calls i).requestId
  progress : ∀ i, family (calls i).requestId → a.progress i = s.progress i

variable {calls : ι → Recorder.Call} {family : RequestId → Prop} {s : Sharing ι} {a : Alone ι}

theorem Notes.fits {id : RequestId} (notes : Notes id due due' next next')
    (fits : ∀ id, ∀ e ∈ due id, e.trace.Fits id) : ∀ id, ∀ e ∈ next id, e.trace.Fits id := by
  cases notes with
  | nothing => exact fits
  | record e own =>
    intro other f held
    by_cases same : other = id
    · subst same
      rw [Function.update_self] at held
      cases held
      exact own
    · rw [Function.update_of_ne same] at held
      exact fits other f held

/-- Under other requests the same is due as before. -/
theorem Notes.others {id other : RequestId} (notes : Notes id due due' next next')
    (different : other ≠ id) : next other = due other := by
  cases notes with
  | nothing => rfl
  | record e own => exact Function.update_of_ne different _ _

theorem Notes.same {id other : RequestId} (notes : Notes id due due' next next')
    (same : due' other = due other) : next' other = next other := by
  cases notes with
  | nothing => exact same
  | record e own =>
    rw [Function.update_apply, Function.update_apply, same]

variable [DecidableEq ι]

theorem drafts_update {p : ι → Progress} (drafts : ∀ i, (p i).Fits (calls i).requestId) {i : ι}
    {q : Progress} (own : q.Fits (calls i).requestId) :
    ∀ k, (Function.update p i q k).Fits (calls k).requestId := by
  intro k
  by_cases same : k = i
  · subst same
    rw [Function.update_self]
    exact own
  · rw [Function.update_of_ne same]
    exact drafts k

/-- A turn of the family is taken on both stores. -/
theorem Apart.own (apart : Apart calls family s a due due') (dated : ∀ i, (calls i).use.Dated)
    {i : ι} (member : family (calls i).requestId) :
    ∃ next next', Apart calls family (s.turn calls (.access i))
      (a.access calls (i, s.journal)) next next' := by
  obtain ⟨b', next, next', alongside, notes, still, drafted⟩ :=
    (calls i).access_beside (dated i) apart.beside (apart.same _ member) (apart.fits _)
      (apart.drafts i)
  have there : a.access calls (i, s.journal) =
      ⟨b', Function.update a.progress i ((calls i).access (s.progress i) s.journal).1⟩ := by
    simp only [Alone.access, apart.progress i member, alongside.same]
    rfl
  rw [there, Sharing.turn_access]
  refine ⟨next, next', still, fun id own => notes.same (apart.same id own), notes.fits apart.fits,
    drafts_update apart.drafts drafted, ?_⟩
  intro k own
  dsimp only
  rw [Function.update_apply, Function.update_apply, apart.progress k own]

/-- A turn of others leaves the store of the family as it is. -/
theorem Apart.other (apart : Apart calls family s a due due') (dated : ∀ i, (calls i).use.Dated)
    {i : ι} (stranger : ¬ family (calls i).requestId) :
    ∃ next, Apart calls family (s.turn calls (.access i)) a next due' := by
  obtain ⟨b', next, next', alongside, notes, still, drafted⟩ :=
    (calls i).access_beside (dated i) (Beside.refl apart.beside.steady apart.beside.here) rfl
      (apart.fits _) (apart.drafts i)
  have le := apart.beside.steady.forward.reading_le alongside.onward
  rw [Sharing.turn_access]
  refine ⟨next, ⟨still.steady, ?_, still.here, apart.beside.there.mono le⟩, ?_, notes.fits apart.fits,
    drafts_update apart.drafts drafted, ?_⟩
  · rw [apart.beside.kind, ← alongside.kind]
    exact still.kind
  · intro id own
    rw [notes.others fun same => stranger (same ▸ own)]
    exact apart.same id own
  · intro k own
    have different : k ≠ i := fun same => stranger (same ▸ own)
    dsimp only
    rw [Function.update_of_ne different]
    exact apart.progress k own

theorem Apart.purge (apart : Apart calls family s a due due') :
    Apart calls family (s.turn calls .purge) a due due' := by
  have ticked := Clock.onward_tick s.journal.clock
  have le := apart.beside.steady.forward.reading_le ticked
  refine ⟨⟨apart.beside.steady.onward ticked, ?_, apart.beside.here.purge.mono le,
    apart.beside.there.mono le⟩, apart.same, apart.fits, apart.drafts, apart.progress⟩
  rw [apart.beside.kind]
  exact (Backend.refusal?_purge _ _).symm

theorem Apart.run [DecidablePred family] (dated : ∀ i, (calls i).use.Dated)
    (schedule : List (Turn ι)) (apart : Apart calls family s a due due') :
    ∃ next next', Apart calls family (s.run calls schedule)
      (a.replay calls (s.occasions calls family schedule)) next next' := by
  induction schedule generalizing s a due due' with
  | nil => exact ⟨due, due', apart⟩
  | cons t rest ih =>
    cases t with
    | purge => exact ih apart.purge
    | access i =>
      rw [Sharing.occasions]
      by_cases member : family (calls i).requestId
      · obtain ⟨next, next', after⟩ := apart.own dated member
        rw [if_pos member]
        exact ih after
      · obtain ⟨next, after⟩ := apart.other dated member
        rw [if_neg member]
        exact ih after

/-- Nothing is due to a store in which nothing has been kept. -/
theorem Backend.Fresh.serves {b c : Backend} (fresh : Backend.Fresh b c) (now : Timestamp) :
    b.Serves (fun _ => none) now ∧ c.Serves (fun _ => none) now ∧ c.refusal? = b.refusal? := by
  cases fresh with
  | memory => exact ⟨Table.serves_empty, Table.serves_empty, rfl⟩
  | durable => exact ⟨Table.serves_empty, Table.serves_empty, rfl⟩

/--
However the accesses of calls for different requests are mixed on one store, amid sweeps and purges:
every call of a family of requests comes as far and answers as it does when the family has a fresh
store to itself, at the same times, and what is stored of its requests is the same then and later.
-/
theorem requests_do_not_interact (calls : ι → Recorder.Call) (dated : ∀ i, (calls i).use.Dated)
    (family : RequestId → Prop) [DecidablePred family] (schedule : List (Turn ι)) {j : Journal}
    {b : Backend} (steady : j.clock.Steady) (fresh : Backend.Fresh j.store.backend b) :
    let shared := (Sharing.start j).run calls schedule
    let alone := (Alone.start b).replay calls ((Sharing.start j).occasions calls family schedule)
    (∀ i, family (calls i).requestId → shared.progress i = alone.progress i) ∧
      ∀ id, family id → ∀ t, shared.journal.clock.reading ≤ t → ∀ script script',
        (TraceStore.load ⟨shared.journal.store.backend, script⟩ id t).1 =
          (TraceStore.load ⟨alone.backend, script'⟩ id t).1 := by
  intro shared alone
  obtain ⟨here, there, kind⟩ := fresh.serves j.clock.reading
  have start : Apart calls family (.start j) (.start b) (fun _ => none) (fun _ => none) :=
    ⟨⟨steady, kind, here, there⟩, fun _ _ => rfl,
      fun _ _ held => (Option.some_ne_none _ held.symm).elim,
      fun _ _ drafted => Progress.noConfusion drafted, fun _ _ => rfl⟩
  obtain ⟨due, due', apart⟩ := start.run dated schedule
  refine ⟨fun i member => (apart.progress i member).symm, ?_⟩
  intro id member t onward script script'
  have here := apart.beside.here.mono onward
  have there := apart.beside.there.mono onward
  have found := (TraceStore.load_spec (s := ⟨shared.journal.store.backend, script⟩) here id).1
  have found' := (TraceStore.load_spec (s := ⟨alone.backend, script'⟩) there id).1
  rw [found, found', apart.same id member]

def Sharing.rehearsal (i : Fin 4) : Recorder.Call :=
  match i with
  | 0 => ⟨⟨Span.ofSecs 5, Span.ofMillis 100⟩, ⟨"a"⟩, .start ["Farm"]⟩
  | 1 => ⟨⟨Span.ofSecs 60, Span.ofMillis 100⟩, ⟨"b"⟩, .start ["Shop", "Bank"]⟩
  | 2 => ⟨⟨Span.ofSecs 5, Span.ofMillis 100⟩, ⟨"a"⟩, .look⟩
  | 3 => ⟨⟨Span.ofSecs 60, Span.ofMillis 100⟩, ⟨"b"⟩, .record "Shop" ⟨7, 0⟩ true⟩

/-- Every write sweeps, one operation is slow and one is refused. -/
def Sharing.journalRehearsal : Journal where
  clock := Clock.start fun n => if n < 6 then ⟨10, 0⟩ else ⟨11, 0⟩
  store := ⟨.memory (MemoryStore.empty (Span.ofSecs 0) ⟨0, 0⟩), some [.proceed, .stall 40, .refuse]⟩
  stepCount := 0
  brokenOff := false

def Sharing.scheduleRehearsal : List (Turn (Fin 4)) :=
  [.access 0, .access 1, .purge, .access 1, .access 0, .access 3, .access 2, .access 3]

theorem Sharing.steady_rehearsal : Sharing.journalRehearsal.clock.Steady := by
  refine ⟨fun m n le => ?_, fun n => ?_⟩
  · show (if m < 6 then (⟨10, 0⟩ : Timestamp) else ⟨11, 0⟩) ≤ if n < 6 then ⟨10, 0⟩ else ⟨11, 0⟩
    by_cases late : n < 6
    · rw [if_pos (Nat.lt_of_le_of_lt le late), if_pos late]
      decide
    · rw [if_neg late]
      split <;> decide
  · show (if n < 6 then (⟨10, 0⟩ : Timestamp) else ⟨11, 0⟩).inCalendar = true
    split <;> decide

theorem Sharing.dated_rehearsal (i : Fin 4) : (Sharing.rehearsal i).use.Dated := by
  match i with
  | 0 => trivial
  | 1 => trivial
  | 2 => trivial
  | 3 => exact (by decide : (⟨7, 0⟩ : Timestamp).inCalendar = true)

theorem requests_do_not_interact_rehearsal :
    let shared := (Sharing.start Sharing.journalRehearsal).run Sharing.rehearsal
      Sharing.scheduleRehearsal
    let alone := (Alone.start (.memory (MemoryStore.empty (Span.ofSecs 60) ⟨10, 0⟩))).replay
      Sharing.rehearsal ((Sharing.start Sharing.journalRehearsal).occasions Sharing.rehearsal
        (· = ⟨"a"⟩) Sharing.scheduleRehearsal)
    (∃ t, shared.progress 2 = .shown t ∧ t.steps.length = 1 ∧ alone.progress 2 = .shown t) ∧
      (TraceStore.load ⟨shared.journal.store.backend, none⟩ ⟨"a"⟩ ⟨12, 0⟩).1 =
        (TraceStore.load ⟨alone.backend, none⟩ ⟨"a"⟩ ⟨12, 0⟩).1 := by
  obtain ⟨alike, stored⟩ := requests_do_not_interact Sharing.rehearsal Sharing.dated_rehearsal
    (· = ⟨"a"⟩) Sharing.scheduleRehearsal Sharing.steady_rehearsal
    (Backend.Fresh.memory (Span.ofSecs 0) ⟨0, 0⟩ (Span.ofSecs 60) ⟨10, 0⟩)
  refine ⟨⟨_, rfl, rfl, (alike 2 rfl).symm⟩, stored _ rfl _ ?_ _ _⟩
  decide

end RollCall
