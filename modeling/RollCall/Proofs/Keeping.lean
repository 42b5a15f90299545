import RollCall.Proofs.Recording
import RollCall.Proofs.Steps

set_option autoImplicit false

/-!
A healthy store under one recorder: a load gives what was saved last, and a save succeeds. On such a
store a use of the recorder appends new steps or closes steps that it found open.
-/
namespace RollCall

open RequestTrace

/-- What a draft changes of the steps that were found. -/
structure Change where
  opened : List Step
  /-- The steps that were found open and will be closed. -/
  closed : List StepId

def Change.none : Change := ⟨[], []⟩

def Draft.trace? : Draft → Option RequestTrace
  | .settled _ => Option.none
  | .pending t _ => some t

def Draft.change (found : List Step) : Draft → Change
  | .settled _ => .none
  | .pending t _ =>
    ⟨t.steps.drop found.length, (openIds found).filter (· ∉ openIds t.steps)⟩

theorem Draft.mem_openIds_of_closed {found : List Step} {d : Draft} {x : StepId}
    (closed : x ∈ (d.change found).closed) : x ∈ openIds found := by
  cases d with
  | settled answer => cases closed
  | pending t answer => exact (List.mem_filter.1 closed).1

namespace Recorder

def stored (r : Recorder) (id : RequestId) (j : Journal) : List Step :=
  match (r.load id j).1 with
  | .ok (some t) => t.steps
  | _ => []

/-- What holds of the journals of a healthy store, by the trace that the request has. -/
structure Keeps (r : Recorder) (id : RequestId) (Holds : Option RequestTrace → Journal → Prop) :
    Prop where
  load : ∀ {t j}, Holds t j → (r.load id j).1 = .ok t ∧ Holds t (r.load id j).2
  save : ∀ {t j} (t' : RequestTrace), Holds t j → t'.requestId = id →
    (r.save t' j).1 = .ok () ∧ Holds (some t') (r.save t' j).2
  tick : ∀ {t j}, Holds t j → ∀ n, Holds t { j with clock := j.clock.tick, stepCount := n }
  named : ∀ {t j}, Holds (some t) j → t.requestId = id

variable {r : Recorder} {id : RequestId} {Holds : Option RequestTrace → Journal → Prop}
  {t : Option RequestTrace} {j : Journal}

theorem Keeps.stored (keeps : r.Keeps id Holds) (held : Holds t j) :
    r.stored id j = (t.map RequestTrace.steps).getD [] := by
  unfold Recorder.stored
  rw [(keeps.load held).1]
  cases t <;> rfl

theorem Keeps.openAll (keeps : r.Keeps id Holds) (participants : List String) {j : Journal}
    (held : Holds t j) : Holds t (j.openAll participants).2 := by
  induction participants generalizing j with
  | nil => exact held
  | cons participant rest ih => exact ih (keeps.tick held (j.stepCount + 1))

/-- Readings of the clock change nothing. -/
theorem Keeps.ticks (keeps : r.Keeps id Holds) {j : Journal} (held : Holds t j) (n : Nat) :
    Holds t { j with clock := { j.clock with taken := j.clock.taken + n } } := by
  induction n with
  | zero => exact held
  | succ n ih => exact keeps.tick ih j.stepCount

theorem Touches.stepCount {k : Journal} (touches : Touches r j k) : k.stepCount = j.stepCount := by
  cases touches with
  | entered => rfl
  | carriedOut store broken script => rfl

theorem stepCount_commit (r : Recorder) (d : Draft) (j : Journal) :
    (r.commit d j).2.stepCount = j.stepCount := by
  cases d with
  | settled answer => rfl
  | pending trace answer =>
    rw [snd_commit_pending]
    exact (save_touches r trace j).stepCount

/-- What a draft may be, given the steps found and the identifiers handed out before and after
it. -/
structure Amends (id : RequestId) (found : List Step) (before after : Nat) (d : Draft) : Prop where
  named : ∀ t ∈ d.trace?, t.requestId = id
  stepIds : ∀ t ∈ d.trace?, t.steps.map Step.stepId =
    found.map Step.stepId ++ (d.change found).opened.map Step.stepId
  openIds : ∀ t ∈ d.trace?, openIds t.steps =
    (RequestTrace.openIds found).filter (· ∉ (d.change found).closed) ++
      RequestTrace.openIds (d.change found).opened
  answer : ∀ x, some x ∈ d.answer ↔ x ∈ (d.change found).opened.map Step.stepId
  fresh : ∀ x ∈ (d.change found).opened.map Step.stepId, before ≤ x.bits.toNat ∧ x.bits.toNat < after
  once : ((d.change found).opened.map Step.stepId).Nodup
  le : before ≤ after

theorem amends_settled {found : List Step} {before after : Nat} {answer : List (Option StepId)}
    (le : before ≤ after) (nobody : ∀ x, some x ∉ answer) :
    Amends id found before after (.settled answer) := by
  refine ⟨?_, ?_, ?_, ?_, ?_, List.nodup_nil, le⟩
  · intro t written
    cases written
  · intro t written
    cases written
  · intro t written
    cases written
  · intro x
    constructor
    · intro answered
      exact absurd answered (nobody x)
    · intro opened
      cases opened
  · intro x opened
    cases opened

theorem amends_append {before after : Nat} {trace : RequestTrace} {steps : List Step}
    (named : trace.requestId = id) (le : before ≤ after)
    (fresh : ∀ x ∈ steps.map Step.stepId, before ≤ x.bits.toNat ∧ x.bits.toNat < after)
    (once : (steps.map Step.stepId).Nodup) :
    Amends id trace.steps before after
      (.pending (trace.append steps) (steps.map fun s => some s.stepId)) := by
  have opened : (Draft.change trace.steps
      (.pending (trace.append steps) (steps.map fun s => some s.stepId))).opened = steps := by
    simp [Draft.change, RequestTrace.append]
  have closed : (Draft.change trace.steps
      (.pending (trace.append steps) (steps.map fun s => some s.stepId))).closed = [] := by
    simp only [Draft.change, RequestTrace.append, openIds_append, List.filter_eq_nil_iff]
    intro x stillOpen
    simp [stillOpen]
  refine ⟨?_, ?_, ?_, ?_, ?_, ?_, le⟩
  · intro t written
    cases written
    exact named
  · intro t written
    cases written
    rw [opened, ← List.map_append]
    rfl
  · intro t written
    cases written
    rw [opened, closed]
    simp [RequestTrace.append]
  · intro x
    rw [opened]
    simp [Draft.answer]
  · rw [opened]
    exact fresh
  · rw [opened]
    exact once

theorem amends_close {before after : Nat} {trace : RequestTrace} {steps : List Step}
    (named : trace.requestId = id) (le : before ≤ after)
    (same : steps.map Step.stepId = trace.steps.map Step.stepId) {ids : List StepId}
    (left : openIds steps = (openIds trace.steps).filter (· ∉ ids)) :
    Amends id trace.steps before after (.pending { trace with steps := steps } []) := by
  have long : steps.length = trace.steps.length := by
    rw [← List.length_map, same, List.length_map]
  have opened : (Draft.change trace.steps (.pending { trace with steps := steps } [])).opened = [] := by
    simp [Draft.change, ← long]
  refine ⟨?_, ?_, ?_, ?_, ?_, ?_, le⟩
  · intro t written
    cases written
    exact named
  · intro t written
    cases written
    rw [opened, same]
    simp
  · intro t written
    cases written
    rw [opened, openIds_nil, List.append_nil]
    apply Eq.trans left
    apply List.filter_congr
    intro x stillOpen
    simp [Draft.change, left, stillOpen]
  · intro x
    rw [opened]
    simp [Draft.answer]
  · rw [opened]
    intro x opened
    cases opened
  · rw [opened]
    exact List.nodup_nil

theorem toNat_stepId {n : Nat} (few : n < twoTo 128) : (Journal.stepId n).bits.toNat = n := by
  rw [Journal.stepId, BitVec.toNat_ofNat]
  exact Nat.mod_eq_of_lt few

/-- New identifiers are those between two counts. -/
theorem mem_freshIds {j : Journal} {count : Nat} (few : j.stepCount + count ≤ twoTo 128)
    {x : StepId} (member : x ∈ j.freshIds count) :
    j.stepCount ≤ x.bits.toNat ∧ x.bits.toNat < j.stepCount + count := by
  obtain ⟨i, below, rfl⟩ := List.mem_map.1 member
  rw [List.mem_range] at below
  rw [toNat_stepId (by omega)]
  omega

theorem freshIds_nodup {j : Journal} {count : Nat} (few : j.stepCount + count ≤ twoTo 128) :
    (j.freshIds count).Nodup := by
  apply List.Nodup.map_on _ List.nodup_range
  intro a below b below' same
  rw [List.mem_range] at below below'
  have equal : (Journal.stepId (j.stepCount + a)).bits.toNat =
      (Journal.stepId (j.stepCount + b)).bits.toNat := congrArg (fun x => x.bits.toNat) same
  rw [toNat_stepId (by omega), toNat_stepId (by omega)] at equal
  omega

theorem draftSteps_amends (keeps : r.Keeps id Holds) (held : Holds t j) {steps : List Step}
    {before after : Nat} (le : before ≤ after)
    (fresh : ∀ x ∈ steps.map Step.stepId, before ≤ x.bits.toNat ∧ x.bits.toNat < after)
    (once : (steps.map Step.stepId).Nodup) :
    Amends id ((t.map RequestTrace.steps).getD []) before after (r.draftSteps id steps j).1 ∧
      Holds t (r.draftSteps id steps j).2 := by
  obtain ⟨loaded, still⟩ := keeps.load held
  rcases equal : r.load id j with ⟨result, k⟩
  rw [equal] at loaded still
  subst loaded
  simp only [draftSteps, equal]
  refine ⟨?_, still⟩
  cases t with
  | none =>
    have opened : Amends id (RequestTrace.empty id).steps before after
        (.pending ((RequestTrace.empty id).append steps) (steps.map fun s => some s.stepId)) :=
      amends_append rfl le fresh once
    exact opened
  | some trace => exact amends_append (keeps.named held) le fresh once

theorem stepCount_draftSteps (r : Recorder) (id : RequestId) (steps : List Step) (j : Journal) :
    (r.draftSteps id steps j).2.stepCount = j.stepCount := by
  rw [snd_draftSteps]
  exact (load_touches r id j).stepCount

theorem stepCount_le_draft (r : Recorder) (id : RequestId) (a : Recording) (j : Journal) :
    j.stepCount ≤ (r.draft id a j).2.stepCount := by
  cases a with
  | start participants =>
    dsimp only [draft]
    split
    · exact Nat.le_refl _
    · rw [stepCount_draftSteps, Journal.snd_openAll]
      exact Nat.le_add_right _ _
  | finished participant startTime success =>
    dsimp only [draft]
    split
    · exact Nat.le_refl _
    · rw [stepCount_draftSteps]
      exact Nat.le_add_right _ _
  | close closes =>
    have counted := (load_touches r id j).stepCount
    rcases snd_draft_close r id closes j with same | ⟨n, read⟩
    · exact Nat.le_of_eq (by rw [same])
    · rw [read]
      exact Nat.le_of_eq counted.symm

theorem draft_close_amends (keeps : r.Keeps id Holds) (held : Holds t j)
    (distinct : (((t.map RequestTrace.steps).getD []).map Step.stepId).Nodup)
    (closes : List (Option StepId × Bool)) :
    Amends id ((t.map RequestTrace.steps).getD []) j.stepCount
        (r.draft id (.close closes) j).2.stepCount (r.draft id (.close closes) j).1 ∧
      Holds t (r.draft id (.close closes) j).2 := by
  obtain ⟨loaded, still⟩ := keeps.load held
  have counted := (load_touches r id j).stepCount
  dsimp only [draft]
  split
  · exact ⟨amends_settled (Nat.le_refl _) (by simp), held⟩
  · rcases equal : r.load id j with ⟨result, k⟩
    rw [equal] at loaded still counted
    subst loaded
    cases t with
    | none => exact ⟨amends_settled (Nat.le_of_eq counted.symm) (by simp), still⟩
    | some trace =>
      have once : (trace.steps.map Step.stepId).Nodup := distinct
      have same : (closeAll closes trace.steps k.clock).1.map Step.stepId =
          trace.steps.map Step.stepId := stepIds_closeAll closes
      have left : openIds (closeAll closes trace.steps k.clock).1 =
          (openIds trace.steps).filter (· ∉ closes.filterMap Prod.fst) :=
        openIds_closeAll once closes
      obtain ⟨n, taken⟩ := clock_closeAll closes trace.steps k.clock
      dsimp only
      rw [taken]
      split
      · refine ⟨amends_close (keeps.named held) (Nat.le_of_eq counted.symm) same left, ?_⟩
        exact keeps.ticks still n
      · exact ⟨amends_settled (Nat.le_of_eq counted.symm) (by simp), still⟩

/-- On a healthy store every draft amends what it found. -/
theorem draft_amends (keeps : r.Keeps id Holds) (held : Holds t j)
    (distinct : (((t.map RequestTrace.steps).getD []).map Step.stepId).Nodup) (a : Recording)
    (few : (r.draft id a j).2.stepCount ≤ twoTo 128) :
    Amends id ((t.map RequestTrace.steps).getD []) j.stepCount (r.draft id a j).2.stepCount
        (r.draft id a j).1 ∧
      Holds t (r.draft id a j).2 := by
  cases a with
  | start participants =>
    dsimp only [draft] at few ⊢
    split
    · exact ⟨amends_settled (Nat.le_refl _) (by simp), held⟩
    · rename_i named
      have count : (j.openAll participants).2.stepCount = j.stepCount + participants.length := by
        rw [Journal.snd_openAll]
      rw [if_neg named, stepCount_draftSteps, count] at few
      rw [stepCount_draftSteps, count]
      apply draftSteps_amends keeps (keeps.openAll participants held) (Nat.le_add_right _ _)
      · intro x member
        rw [Journal.stepIds_openAll] at member
        exact mem_freshIds few member
      · rw [Journal.stepIds_openAll]
        exact freshIds_nodup few
  | finished participant startTime success =>
    dsimp only [draft] at few ⊢
    split
    · exact ⟨amends_settled (Nat.le_refl _) (by simp), held⟩
    · rename_i named
      rw [if_neg named, stepCount_draftSteps] at few
      rw [stepCount_draftSteps]
      apply draftSteps_amends keeps (keeps.tick held _) (Nat.le_add_right _ _)
      · intro x member
        have same : x = Journal.stepId j.stepCount := List.mem_singleton.1 member
        have small : j.stepCount < twoTo 128 := Nat.lt_of_succ_le few
        rw [same, toNat_stepId small]
        exact ⟨Nat.le_refl _, Nat.lt_succ_self _⟩
      · exact List.nodup_singleton _
  | close closes => exact draft_close_amends keeps held distinct closes

end Recorder

theorem Table.getEntry_filter {κ α : Type} [DecidableEq κ] (p : α → Bool) {k : κ} {a : α}
    (kept : p a = true) {es : List (κ × α)} (found : getEntry k es = some a) :
    getEntry k (es.filter fun e => p e.2) = some a := by
  induction es with
  | nil => cases found
  | cons e rest ih =>
    obtain ⟨k', b⟩ := e
    rw [getEntry] at found
    split at found
    · rename_i same
      cases found
      rw [List.filter_cons, if_pos kept, getEntry, if_pos same]
    · rename_i different
      rw [List.filter_cons]
      split
      · rw [getEntry, if_neg different]
        exact ih found
      · exact ih found

/-- A sweep leaves what is live. -/
theorem MemoryStore.get?_sweepIfDue {m : MemoryStore} {id : RequestId} {e : MemoryEntry}
    {now : Timestamp} (found : m.entries.get? id = some e) (live : e.isLive now = true) :
    (m.sweepIfDue now).entries.get? id = some e := by
  unfold sweepIfDue
  split
  · exact Table.getEntry_filter (fun e => e.isLive now) live found
  · exact found

namespace Recorder

/--
A store of a single process that carries out every operation in time and in which no trace of the
request expires.
-/
structure InMemory (r : Recorder) (id : RequestId) (t : Option RequestTrace) (j : Journal) : Prop where
  inTime : ∀ d ∈ j.store.script.getD [],
    (TraceStore.admission r.storeTimeout.millis d).1 = .carriedOut
  lasts : ∀ m n, j.clock.readings n < (j.clock.readings m).add r.ttl
  fits : ∀ n, ((j.clock.readings n).add r.ttl).seconds ≤ MemoryStore.lastSecond
  memory : ∃ m, j.store.backend = .memory m ∧ (m.entries.get? id).map MemoryEntry.trace = t ∧
    ∀ e, m.entries.get? id = some e →
      e.trace.requestId = id ∧ ∀ n, j.clock.readings n < e.expiresAt

variable {r : Recorder} {id : RequestId} {t : Option RequestTrace} {j : Journal}

theorem InMemory.enter (held : r.InMemory id t j) :
    (r.enter j).1 = .carriedOut ∧ r.InMemory id t (r.enter j).2 := by
  obtain ⟨inTime, lasts, fits, memory⟩ := held
  cases script : j.store.script with
  | none =>
    have entered : r.enter j = (.carriedOut, { j with clock := j.clock.wait 0 }) := by
      simp [Recorder.enter, TraceStore.nextAdmission, script]
    rw [entered, Clock.wait_zero]
    exact ⟨rfl, inTime, lasts, fits, memory⟩
  | some entries =>
    cases entries with
    | nil =>
      have entered : r.enter j = (.carriedOut, { j with clock := j.clock.wait 0 }) := by
        simp [Recorder.enter, TraceStore.nextAdmission, script]
      rw [entered, Clock.wait_zero]
      exact ⟨rfl, inTime, lasts, fits, memory⟩
    | cons d rest =>
      rw [script] at inTime
      have first : (TraceStore.admission r.storeTimeout.millis d).1 = .carriedOut :=
        inTime d List.mem_cons_self
      refine ⟨?_, ?_, ?_, ?_, ?_⟩
      · simp [Recorder.enter, TraceStore.nextAdmission, script, first]
      · intro e member
        exact inTime e (by
          simpa [Recorder.enter, TraceStore.nextAdmission, script] using Or.inr member)
      · simpa [Recorder.enter, Clock.readings_wait] using lasts
      · simpa [Recorder.enter, Clock.readings_wait] using fits
      · simpa [Recorder.enter, TraceStore.nextAdmission, script, Clock.readings_wait] using memory

theorem InMemory.load (held : r.InMemory id t j) :
    (r.load id j).1 = .ok t ∧ r.InMemory id t (r.load id j).2 := by
  obtain ⟨carriedOut, entered⟩ := held.enter
  rcases equal : r.enter j with ⟨admission, k⟩
  rw [equal] at carriedOut entered
  subst carriedOut
  obtain ⟨inTime, lasts, fits, m, backend, found, live⟩ := entered
  have loaded : k.store.load id k.clock.reading = (.ok t, k.store) := by
    unfold TraceStore.load
    rw [backend]
    cases entry : m.entries.get? id with
    | none =>
      rw [entry] at found
      subst found
      simp [MemoryStore.load, entry, ← backend]
    | some e =>
      rw [entry] at found
      subst found
      have isLive : e.isLive k.clock.reading = true :=
        decide_eq_true ((live e entry).2 k.clock.taken)
      simp [MemoryStore.load, entry, isLive, ← backend]
  have whole : r.load id j = (.ok t, { k with clock := k.clock.tick }) := by
    simp only [Recorder.load, equal, loaded]
  rw [whole]
  exact ⟨rfl, inTime, lasts, fits, m, backend, found, live⟩

theorem InMemory.save (held : r.InMemory id t j) (trace : RequestTrace)
    (named : trace.requestId = id) :
    (r.save trace j).1 = .ok () ∧ r.InMemory id (some trace) (r.save trace j).2 := by
  obtain ⟨carriedOut, entered⟩ := held.enter
  rcases equal : r.enter j with ⟨admission, k⟩
  rw [equal] at carriedOut entered
  subst carriedOut
  have admitted : r.InMemory id t k := entered
  obtain ⟨inTime, lasts, fits, m, backend, -, -⟩ := admitted
  have early : ¬ MemoryStore.lastSecond < (k.clock.reading.add r.ttl).seconds :=
    Int.not_lt.2 (fits k.clock.taken)
  have isLive : MemoryEntry.isLive ⟨trace, k.clock.reading.add r.ttl⟩ k.clock.reading = true :=
    decide_eq_true (lasts k.clock.taken k.clock.taken)
  have put : (m.entries.put trace.requestId ⟨trace, k.clock.reading.add r.ttl⟩).get? id =
      some ⟨trace, k.clock.reading.add r.ttl⟩ := by
    rw [Table.get?_put, if_pos named]
  let written : MemoryStore :=
    { m with entries := m.entries.put trace.requestId ⟨trace, k.clock.reading.add r.ttl⟩ }
  have kept : (written.sweepIfDue k.clock.reading).entries.get? id =
      some ⟨trace, k.clock.reading.add r.ttl⟩ := MemoryStore.get?_sweepIfDue put isLive
  have whole : r.save trace j = (.ok (), { k with
      clock := k.clock.tick
      store := { k.store with backend := .memory (written.sweepIfDue k.clock.reading) } }) := by
    simp only [Recorder.save, equal, TraceStore.save, backend, MemoryStore.save, early, ↓reduceIte,
      StoreFailure.breaksOff, Bool.or_false, written]
  rw [whole]
  refine ⟨rfl, inTime, lasts, fits, _, rfl, by rw [kept]; rfl, ?_⟩
  intro e found
  rw [kept] at found
  cases found
  exact ⟨named, lasts k.clock.taken⟩

theorem keeps_inMemory (r : Recorder) (id : RequestId) : r.Keeps id (r.InMemory id) := by
  refine ⟨?_, ?_, ?_, ?_⟩
  · intro t j held
    exact held.load
  · intro t j trace held named
    exact held.save trace named
  · intro t j held n
    exact ⟨held.inTime, held.lasts, held.fits, held.memory⟩
  · intro t j held
    obtain ⟨m, -, found, live⟩ := held.memory
    obtain ⟨e, entry, rfl⟩ := Option.map_eq_some_iff.1 found
    exact (live e entry).1

end Recorder

end RollCall
