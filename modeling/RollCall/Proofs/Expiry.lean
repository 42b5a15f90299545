import Mathlib.Data.List.Induction
import RollCall.Proofs.Records

set_option autoImplicit false

/-!
Both stores serve what a map with expiring records would. Records leave a store when they are asked
for too late, in sweeps after a write, in purges and when they are overwritten; none of these can be
told from the answers.
-/
namespace RollCall

namespace Table

variable {κ α : Type}

def Distinct (t : Table κ α) : Prop := (t.entries.map Prod.fst).Nodup

theorem Distinct.filter {t : Table κ α} (distinct : t.Distinct) (p : κ × α → Bool) :
    Distinct ⟨t.entries.filter p⟩ :=
  List.Nodup.sublist (List.Sublist.map Prod.fst List.filter_sublist) distinct

variable [DecidableEq κ] {t : Table κ α}

theorem getEntry_of_not_mem {k : κ} {es : List (κ × α)} (absent : k ∉ es.map Prod.fst) :
    getEntry k es = none := by
  induction es with
  | nil => rfl
  | cons e rest ih =>
    rw [List.map_cons, List.mem_cons, not_or] at absent
    rw [getEntry, if_neg (Ne.symm absent.1)]
    exact ih absent.2

theorem mem_keys_putEntry {k j : κ} {a : α} {es : List (κ × α)}
    (member : j ∈ (putEntry k a es).map Prod.fst) : j = k ∨ j ∈ es.map Prod.fst := by
  induction es with
  | nil =>
    left
    simpa [putEntry] using member
  | cons e rest ih =>
    obtain ⟨k', b⟩ := e
    rw [putEntry] at member
    split at member
    · rename_i same
      subst same
      exact Or.inr member
    · rcases List.mem_cons.1 member with rfl | member
      · exact Or.inr List.mem_cons_self
      · exact (ih member).imp_right (List.mem_cons_of_mem _)

theorem Distinct.put (distinct : t.Distinct) (k : κ) (a : α) : (t.put k a).Distinct := by
  obtain ⟨es⟩ := t
  show ((putEntry k a es).map Prod.fst).Nodup
  induction es with
  | nil => exact List.nodup_singleton k
  | cons e rest ih =>
    obtain ⟨k', b⟩ := e
    obtain ⟨fresh, others⟩ := List.nodup_cons.1 distinct
    rw [putEntry]
    split
    · rename_i same
      subst same
      exact List.nodup_cons.2 ⟨fresh, others⟩
    · rename_i different
      refine List.nodup_cons.2 ⟨fun member => ?_, ih others⟩
      exact (mem_keys_putEntry member).elim different fresh

/-- What is kept under a key is what was there, if it passes. -/
theorem Distinct.get?_keep (distinct : t.Distinct) (p : α → Bool) (k : κ) :
    (t.keep p).get? k = (t.get? k).filter p := by
  obtain ⟨es⟩ := t
  show getEntry k (es.filter fun e => p e.2) = (getEntry k es).filter p
  induction es with
  | nil => rfl
  | cons e rest ih =>
    obtain ⟨k', b⟩ := e
    obtain ⟨fresh, others⟩ := List.nodup_cons.1 distinct
    rw [getEntry]
    split
    · rename_i same
      subst same
      rw [Option.filter_some]
      split
      · rename_i passes
        rw [List.filter_cons, if_pos passes, getEntry, if_pos rfl]
      · rename_i fails
        rw [List.filter_cons, if_neg fails, ih others, getEntry_of_not_mem fresh]
        rfl
    · rename_i different
      rw [List.filter_cons]
      split
      · rw [getEntry, if_neg different]
        exact ih others
      · exact ih others

variable {κ α : Type} [DecidableEq κ] {key : RequestId → κ} {read : α → Option Record}
  {t : Table κ α} {due : RequestId → Option Record} {now later : Timestamp}

/--
A table of records in some representation has the same live records as a map of what is due under
each name.
-/
structure Serves (key : RequestId → κ) (read : α → Option Record) (t : Table κ α)
    (due : RequestId → Option Record) (now : Timestamp) : Prop where
  distinct : t.Distinct
  readable : ∀ id a, t.get? (key id) = some a → ∃ r, read a = some r
  live : ∀ id, ((t.get? (key id)).bind read).filter (·.isLive now) =
    (due id).filter (·.isLive now)

theorem isLive_of_later {r : Record} (onward : now ≤ later) (live : r.isLive later = true) :
    r.isLive now = true :=
  decide_eq_true (Timestamp.lt_of_le_of_lt onward (of_decide_eq_true live))

/-- What is live later is live now, so records only leave. -/
theorem Serves.mono (serves : Serves key read t due now) (onward : now ≤ later) :
    Serves key read t due later := by
  refine ⟨serves.distinct, serves.readable, fun id => ?_⟩
  have narrow (o : Option Record) :
      o.filter (·.isLive later) = (o.filter (·.isLive now)).filter (·.isLive later) := by
    rw [Option.filter_filter]
    congr 1
    funext r
    cases live : r.isLive later with
    | false => exact (Bool.and_false _).symm
    | true => rw [isLive_of_later onward live, Bool.and_true]
  rw [narrow, serves.live, ← narrow]

theorem Serves.due_of_none (serves : Serves key read t due now) {id : RequestId}
    (found : t.get? (key id) = none) : (due id).filter (·.isLive now) = none := by
  rw [← serves.live id, found]
  rfl

theorem Serves.due_of_some (serves : Serves key read t due now) {id : RequestId} {a : α} {r : Record}
    (found : t.get? (key id) = some a) (readable : read a = some r) :
    (due id).filter (·.isLive now) = if r.isLive now = true then some r else none := by
  rw [← serves.live id, found, Option.bind_some, readable, Option.filter_some]

/-- Overwriting. -/
theorem Serves.put (serves : Serves key read t due now) (injective : Function.Injective key)
    (id : RequestId) {a : α} {r : Record} (written : read a = some r) :
    Serves key read (t.put (key id) a) (fun j => if id = j then some r else due j) now := by
  refine ⟨serves.distinct.put (key id) a, ?_, ?_⟩
  · intro j b found
    rw [get?_put] at found
    split at found
    · cases found
      exact ⟨r, written⟩
    · exact serves.readable j b found
  · intro j
    simp only [get?_put, injective.eq_iff]
    split
    · rw [Option.bind_some, written]
    · exact serves.live j

/-- Lazy eviction. -/
theorem Serves.erase (serves : Serves key read t due now) (injective : Function.Injective key)
    {id : RequestId} (dead : (due id).filter (·.isLive now) = none) :
    Serves key read (t.erase (key id)) due now := by
  refine ⟨serves.distinct.filter _, ?_, ?_⟩
  · intro j a found
    rw [get?_erase] at found
    split at found
    · cases found
    · exact serves.readable j a found
  · intro j
    simp only [get?_erase, injective.eq_iff]
    split
    · rename_i same
      rw [← same, dead]
      rfl
    · exact serves.live j

/-- Sweeps and purges. -/
theorem Serves.keep (serves : Serves key read t due now) {p : α → Bool}
    (exact : ∀ a r, read a = some r → p a = r.isLive now) : Serves key read (t.keep p) due now := by
  have kept (id : RequestId) : ((t.keep p).get? (key id)).bind read =
      ((t.get? (key id)).bind read).filter (·.isLive now) := by
    rw [serves.distinct.get?_keep]
    cases found : t.get? (key id) with
    | none => rfl
    | some a =>
      obtain ⟨r, readable⟩ := serves.readable id a found
      rw [Option.bind_some, readable, Option.filter_some, Option.filter_some, exact a r readable]
      split
      · exact readable
      · rfl
  refine ⟨serves.distinct.filter _, ?_, ?_⟩
  · intro id a found
    rw [serves.distinct.get?_keep, Option.filter_eq_some_iff] at found
    exact serves.readable id a found.1
  · intro id
    rw [kept, Option.filter_filter]
    simp only [Bool.and_self]
    exact serves.live id

end Table

inductive StoreUse where
  | save (trace : RequestTrace) (ttl : Span)
  | load (id : RequestId)
  | purge
  /-- A durable store is closed and opened anew; a store of a single process goes on. -/
  | reopen (interval : Span)

namespace StoreUse

/-- The record under a key that a use writes, where only some times to live are accepted. -/
def written? (accepts : Span → Timestamp → Bool) (id : RequestId) :
    Timestamp × StoreUse → Option Record
  | (now, .save trace ttl) =>
    if trace.requestId = id ∧ accepts ttl now = true then some ⟨now.add ttl, trace⟩ else none
  | _ => none

/-- The last record written under a key. -/
def lastWritten (accepts : Span → Timestamp → Bool) (uses : List (Timestamp × StoreUse))
    (id : RequestId) : Option Record :=
  (uses.filterMap (written? accepts id)).getLast?

/-- What is due at an instant under a key: the last trace saved, if it has not expired. -/
def served (accepts : Span → Timestamp → Bool) (uses : List (Timestamp × StoreUse))
    (id : RequestId) (t : Timestamp) : Option RequestTrace :=
  match lastWritten accepts uses id with
  | some r => if t < r.expiresAt then some r.trace else none
  | none => none

/-- A save happens at an instant of the calendar, and the trace has only such instants. -/
def Dated : Timestamp × StoreUse → Prop
  | (now, .save trace _) => now.inCalendar = true ∧ trace.Dated
  | _ => True

/-- The uses follow one another in time, all of them until an instant. -/
def Ordered (uses : List (Timestamp × StoreUse)) (t : Timestamp) : Prop :=
  (uses.map Prod.fst ++ [t]).Pairwise (· ≤ ·)

variable {accepts : Span → Timestamp → Bool}

theorem Ordered.of_append {uses : List (Timestamp × StoreUse)} {u : Timestamp × StoreUse}
    {t : Timestamp} (ordered : Ordered (uses ++ [u]) t) : Ordered uses u.1 ∧ u.1 ≤ t := by
  unfold Ordered at ordered
  rw [List.map_append, List.pairwise_append] at ordered
  exact ⟨ordered.1, ordered.2.2 u.1 (List.mem_append_right _ List.mem_cons_self) t
    List.mem_cons_self⟩

theorem lastWritten_append (uses : List (Timestamp × StoreUse)) (u : Timestamp × StoreUse)
    (id : RequestId) : lastWritten accepts (uses ++ [u]) id =
      (written? accepts id u).or (lastWritten accepts uses id) := by
  unfold lastWritten
  rw [List.filterMap_append, List.getLast?_append]
  cases written : written? accepts id u <;> simp [written]

/--
A property of what is held and what is due holds after every run if each use preserves it and the
passage of time does.
-/
theorem run_induction {σ : Type} {use : σ → Timestamp → StoreUse → σ}
    {P : σ → (RequestId → Option Record) → Timestamp → Prop} {s : σ}
    (start : ∀ t, P s (fun _ => none) t)
    (mono : ∀ {s due now later}, P s due now → now ≤ later → P s due later)
    (uses : List (Timestamp × StoreUse))
    (step : ∀ {s due now u}, (now, u) ∈ uses → P s due now →
      P (use s now u) (fun id => (written? accepts id (now, u)).or (due id)) now)
    {t : Timestamp} (ordered : Ordered uses t) :
    P (uses.foldl (fun s u => use s u.1 u.2) s) (lastWritten accepts uses) t := by
  induction uses using List.reverseRecOn generalizing t with
  | nil => exact start t
  | append_singleton uses u ih =>
    obtain ⟨before, onward⟩ := ordered.of_append
    have held := ih (fun member => step (List.mem_append_left _ member)) before
    have used := step (List.mem_append_right _ List.mem_cons_self) held
    rw [List.foldl_append]
    refine mono ?_ onward
    rw [funext (lastWritten_append uses u)]
    exact used

/-- An accepted save is what is due from then on. -/
theorem written?_or_of_accepts {ttl : Span} {now : Timestamp} (accepted : accepts ttl now = true)
    (trace : RequestTrace) (due : RequestId → Option Record) :
    (fun id => (written? accepts id (now, .save trace ttl)).or (due id)) =
      fun id => if trace.requestId = id then some ⟨now.add ttl, trace⟩ else due id := by
  funext id
  by_cases own : trace.requestId = id <;> simp [written?, own, accepted]

theorem written?_or_of_refused {ttl : Span} {now : Timestamp} (refused : ¬ accepts ttl now = true)
    (trace : RequestTrace) (due : RequestId → Option Record) :
    (fun id => (written? accepts id (now, .save trace ttl)).or (due id)) = due := by
  funext id
  simp [written?, refused]

theorem served_eq (uses : List (Timestamp × StoreUse)) (id : RequestId) (t : Timestamp) :
    served accepts uses id t =
      ((lastWritten accepts uses id).filter (·.isLive t)).map Record.trace := by
  unfold served
  split
  · rename_i r last
    rw [last, Option.filter_some, Record.isLive]
    by_cases early : t < r.expiresAt <;> simp [early]
  · rename_i last
    rw [last]
    rfl

end StoreUse

namespace MemoryStore

def accepts (ttl : Span) (now : Timestamp) : Bool := (now.add ttl).seconds ≤ lastSecond

/-- The store after one use; a save that is refused changes nothing. -/
def use (s : MemoryStore) (now : Timestamp) : StoreUse → MemoryStore
  | .save trace ttl =>
    match s.save trace ttl now with
    | .ok s => s
    | .error _ => s
  | .load id => (s.load id now).2
  | .purge => (s.purge now).2
  | .reopen _ => s

def useAll (s : MemoryStore) (uses : List (Timestamp × StoreUse)) : MemoryStore :=
  uses.foldl (fun s u => s.use u.1 u.2) s

theorem save_eq (s : MemoryStore) (trace : RequestTrace) (ttl : Span) (now : Timestamp) :
    s.save trace ttl now = if accepts ttl now then
      .ok ({ s with entries := s.entries.put trace.requestId ⟨trace, now.add ttl⟩ }.sweepIfDue now)
      else .error .pastEndOfClock := by
  unfold save accepts
  by_cases early : (now.add ttl).seconds ≤ lastSecond
  · simp [early]
  · simp [early, Int.not_le.1 early]

def readEntry (e : MemoryEntry) : Option Record := some ⟨e.expiresAt, e.trace⟩

def Serves (s : MemoryStore) (due : RequestId → Option Record) (now : Timestamp) : Prop :=
  s.entries.Serves id readEntry due now

variable {s : MemoryStore} {due : RequestId → Option Record} {now : Timestamp}

theorem Serves.purge (serves : s.Serves due now) : (s.purge now).2.Serves due now := by
  show Table.Serves id readEntry (s.entries.keep fun e => e.isLive now) due now
  refine Table.Serves.keep serves fun e r read => ?_
  cases read
  rfl

theorem Serves.sweepIfDue (serves : s.Serves due now) : (s.sweepIfDue now).Serves due now := by
  unfold MemoryStore.sweepIfDue
  split
  · exact purge serves
  · exact serves

theorem Serves.load (serves : s.Serves due now) (id : RequestId) :
    (s.load id now).1 = ((due id).filter (·.isLive now)).map Record.trace ∧
      (s.load id now).2.Serves due now := by
  unfold MemoryStore.load
  cases found : s.entries.get? id with
  | none =>
    rw [Table.Serves.due_of_none serves found]
    exact ⟨rfl, serves⟩
  | some e =>
    have same := Table.Serves.due_of_some serves found (r := ⟨e.expiresAt, e.trace⟩) rfl
    have isLive : Record.isLive ⟨e.expiresAt, e.trace⟩ now = e.isLive now := rfl
    rw [isLive] at same
    by_cases live : e.isLive now = true
    · rw [if_pos live] at same
      simp only [live, ↓reduceIte, same]
      exact ⟨rfl, serves⟩
    · rw [if_neg live] at same
      simp only [live, Bool.false_eq_true, ↓reduceIte, same]
      exact ⟨rfl, Table.Serves.erase serves Function.injective_id same⟩

theorem Serves.use (serves : s.Serves due now) (u : StoreUse) :
    (s.use now u).Serves
      (fun id => (StoreUse.written? accepts id (now, u)).or (due id)) now := by
  cases u with
  | save trace ttl =>
    simp only [MemoryStore.use, save_eq]
    by_cases accepted : accepts ttl now = true
    · rw [if_pos accepted, StoreUse.written?_or_of_accepts accepted]
      exact sweepIfDue (Table.Serves.put serves Function.injective_id trace.requestId rfl)
    · rw [if_neg accepted, StoreUse.written?_or_of_refused accepted]
      exact serves
  | load id => exact (serves.load id).2
  | purge => exact serves.purge
  | reopen interval => exact serves

end MemoryStore

namespace DurableStore

def accepts (ttl : Span) (now : Timestamp) : Bool := decide (Accepts ttl now)

variable {codec : RecordCodec}

def use (s : DurableStore codec) (now : Timestamp) : StoreUse → DurableStore codec
  | .save trace ttl =>
    match s.save trace ttl now with
    | .ok s => s
    | .error _ => s
  | .load id => (s.load id now).2
  | .purge => (s.purge now).2
  | .reopen interval => s.reopen interval now

def useAll (s : DurableStore codec) (uses : List (Timestamp × StoreUse)) : DurableStore codec :=
  uses.foldl (fun s u => s.use u.1 u.2) s

theorem save_of_refused (s : DurableStore codec) (trace : RequestTrace) {ttl : Span} {now : Timestamp}
    (refused : ¬ Accepts ttl now) : ∃ fault, s.save trace ttl now = .error fault := by
  unfold save
  split
  · exact ⟨_, rfl⟩
  · rename_i fits
    have late : now.add? ttl = none := if_neg fun early => refused ⟨Nat.not_lt.1 fits, early⟩
    rw [late]
    exact ⟨_, rfl⟩

def Serves (s : DurableStore codec) (due : RequestId → Option Record) (now : Timestamp) : Prop :=
  s.records.Serves RequestId.key codec.decode? due now

variable {s : DurableStore codec} {due : RequestId → Option Record} {now : Timestamp}

theorem Serves.purge (serves : s.Serves due now) : (s.purge now).2.Serves due now := by
  show Table.Serves RequestId.key codec.decode? (s.records.keep (isKept codec now)) due now
  refine Table.Serves.keep serves fun bytes r read => ?_
  rw [isKept, read]

theorem Serves.sweepIfDue (serves : s.Serves due now) : (s.sweepIfDue now).Serves due now := by
  unfold DurableStore.sweepIfDue
  split
  · exact purge serves
  · exact serves

theorem Serves.load (serves : s.Serves due now) (id : RequestId) :
    (s.load id now).1 = .ok (((due id).filter (·.isLive now)).map Record.trace) ∧
      (s.load id now).2.Serves due now := by
  unfold DurableStore.load
  cases found : s.records.get? id.key with
  | none =>
    rw [Table.Serves.due_of_none serves found]
    exact ⟨rfl, serves⟩
  | some bytes =>
    obtain ⟨r, read⟩ := serves.readable id bytes found
    have same := Table.Serves.due_of_some serves found read
    simp only [read]
    by_cases live : r.isLive now = true
    · rw [if_pos live] at same
      simp only [live, ↓reduceIte, same]
      exact ⟨rfl, serves⟩
    · rw [if_neg live] at same
      simp only [live, Bool.false_eq_true, ↓reduceIte, same]
      exact ⟨rfl, Table.Serves.erase serves RequestId.key_injective same⟩

theorem Serves.use {s : DurableStore .json} (serves : s.Serves due now) {u : StoreUse}
    (dated : StoreUse.Dated (now, u)) :
    (s.use now u).Serves (fun id => (StoreUse.written? accepts id (now, u)).or (due id)) now := by
  cases u with
  | save trace ttl =>
    by_cases accepted : Accepts ttl now
    · simp only [DurableStore.use, save_of_accepts accepted]
      rw [StoreUse.written?_or_of_accepts (decide_eq_true accepted)]
      have read := RecordCodec.decode?_encode_json_iff.2 (accepted.dated dated.1 dated.2)
      exact sweepIfDue (Table.Serves.put serves RequestId.key_injective trace.requestId read)
    · obtain ⟨fault, refused⟩ := save_of_refused s trace accepted
      simp only [DurableStore.use, refused]
      rw [StoreUse.written?_or_of_refused (mt of_decide_eq_true accepted)]
      exact serves
  | load id => exact (serves.load id).2
  | purge => exact serves.purge
  | reopen interval => exact serves

end DurableStore

theorem Table.serves_empty {κ α : Type} [DecidableEq κ] {key : RequestId → κ}
    {read : α → Option Record} {now : Timestamp} : Serves key read Table.empty (fun _ => none) now :=
  ⟨List.nodup_nil, fun _ _ found => (Option.some_ne_none _ found.symm).elim, fun _ => rfl⟩

theorem MemoryStore.serves_useAll (interval : Span) (opened : Timestamp)
    {uses : List (Timestamp × StoreUse)} {t : Timestamp} (ordered : StoreUse.Ordered uses t) :
    ((empty interval opened).useAll uses).Serves (StoreUse.lastWritten accepts uses) t :=
  StoreUse.run_induction (P := MemoryStore.Serves) (s := empty interval opened)
    (fun _ => Table.serves_empty) (fun serves onward => Table.Serves.mono serves onward) uses
    (fun _ serves => serves.use _) ordered

theorem DurableStore.serves_useAll (interval : Span) (opened : Timestamp)
    {uses : List (Timestamp × StoreUse)} (dated : ∀ u ∈ uses, StoreUse.Dated u) {t : Timestamp}
    (ordered : StoreUse.Ordered uses t) :
    ((empty .json interval opened).useAll uses).Serves (StoreUse.lastWritten accepts uses) t :=
  StoreUse.run_induction (P := DurableStore.Serves) (s := empty .json interval opened)
    (fun _ => Table.serves_empty) (fun serves onward => Table.Serves.mono serves onward) uses
    (fun member serves => serves.use (dated _ member)) ordered

/-- What the store of texts accepts, the store of a single process accepts too. -/
theorem MemoryStore.accepts_of_durable {ttl : Span} {now : Timestamp}
    (accepted : DurableStore.accepts ttl now = true) : accepts ttl now = true := by
  have early : (now.add ttl).seconds < Timestamp.endOfCalendar := (of_decide_eq_true accepted).2
  have first : Timestamp.endOfCalendar ≤ lastSecond := by decide
  exact decide_eq_true (Int.le_of_lt (Int.lt_of_lt_of_le early first))

def StoreUse.isAccepted (accepts : Span → Timestamp → Bool) : Timestamp × StoreUse → Bool
  | (now, .save _ ttl) => accepts ttl now
  | _ => true

theorem StoreUse.written?_eq_of_isAccepted {u : Timestamp × StoreUse}
    (accepted : isAccepted DurableStore.accepts u = true) (id : RequestId) :
    written? MemoryStore.accepts id u = written? DurableStore.accepts id u := by
  obtain ⟨now, u⟩ := u
  cases u with
  | save trace ttl =>
    have durable : DurableStore.accepts ttl now = true := accepted
    simp only [written?, durable, MemoryStore.accepts_of_durable durable]
  | load id => rfl
  | purge => rfl
  | reopen interval => rfl

/--
Whatever is done to a store, in whatever order and at whatever sweep interval, a load answers with
the last trace saved under the key if that has not expired, and with nothing otherwise. So the two
stores agree when both accept every time to live.
-/
theorem stores_serve_what_is_due {uses : List (Timestamp × StoreUse)} {t : Timestamp}
    (ordered : StoreUse.Ordered uses t) (id : RequestId) :
    (∀ interval opened, (((MemoryStore.empty interval opened).useAll uses).load id t).1 =
      StoreUse.served MemoryStore.accepts uses id t) ∧
    ((∀ u ∈ uses, StoreUse.Dated u) →
      (∀ interval opened, (((DurableStore.empty .json interval opened).useAll uses).load id t).1 =
        .ok (StoreUse.served DurableStore.accepts uses id t)) ∧
      ((∀ u ∈ uses, StoreUse.isAccepted DurableStore.accepts u = true) →
        ∀ interval opened interval' opened',
          (((DurableStore.empty .json interval opened).useAll uses).load id t).1 =
            .ok (((MemoryStore.empty interval' opened').useAll uses).load id t).1)) := by
  have memory (interval : Span) (opened : Timestamp) :
      (((MemoryStore.empty interval opened).useAll uses).load id t).1 =
        StoreUse.served MemoryStore.accepts uses id t := by
    rw [StoreUse.served_eq]
    exact ((MemoryStore.serves_useAll interval opened ordered).load id).1
  refine ⟨memory, fun dated => ?_⟩
  have durable (interval : Span) (opened : Timestamp) :
      (((DurableStore.empty .json interval opened).useAll uses).load id t).1 =
        .ok (StoreUse.served DurableStore.accepts uses id t) := by
    rw [StoreUse.served_eq]
    exact ((DurableStore.serves_useAll interval opened dated ordered).load id).1
  refine ⟨durable, fun accepted interval opened interval' opened' => ?_⟩
  have same : StoreUse.served MemoryStore.accepts uses id t =
      StoreUse.served DurableStore.accepts uses id t := by
    unfold StoreUse.served StoreUse.lastWritten
    rw [List.filterMap_congr fun u member =>
      StoreUse.written?_eq_of_isAccepted (accepted u member) id]
  rw [durable, memory, same]

/-- Two requests: one is saved for five seconds, the other is overwritten, both amid sweeps. -/
def StoreUse.rehearsal : List (Timestamp × StoreUse) :=
  [(⟨0, 0⟩, .save (RequestTrace.empty ⟨"short"⟩) (Span.ofSecs 5)),
    (⟨1, 0⟩, .save (RequestTrace.empty ⟨"long"⟩) (Span.ofSecs 1)),
    (⟨1, 500⟩, .save ⟨⟨"long"⟩, Record.rehearsal.trace.steps⟩ (Span.ofSecs 60)),
    (⟨4, 999999999⟩, .load ⟨"short"⟩),
    (⟨5, 0⟩, .load ⟨"short"⟩),
    (⟨6, 0⟩, .purge),
    (⟨6, 0⟩, .reopen (Span.ofSecs 0)),
    (⟨7, 0⟩, .save (RequestTrace.empty ⟨"other"⟩) (Span.ofSecs 1))]

theorem StoreUse.ordered_rehearsal (t : Timestamp) (late : ⟨7, 0⟩ ≤ t) : Ordered rehearsal t := by
  refine List.pairwise_append.2 ⟨by decide, List.pairwise_singleton _ _, ?_⟩
  intro s member u last
  cases List.mem_singleton.1 last
  have early : s ≤ ⟨7, 0⟩ := by
    revert s
    decide
  exact Timestamp.le_trans early late

theorem StoreUse.dated_rehearsal : ∀ u ∈ rehearsal, Dated u := by
  simp only [rehearsal, List.forall_mem_cons]
  refine ⟨⟨by decide, ?_⟩, ⟨by decide, ?_⟩, ⟨by decide, RollCall.dated_rehearsal.steps⟩, trivial,
    trivial, trivial, trivial, ⟨by decide, ?_⟩, ?_⟩
  all_goals exact fun s member => (List.not_mem_nil member).elim

theorem stores_serve_what_is_due_rehearsal :
    (((MemoryStore.empty (Span.ofSecs 0) ⟨0, 0⟩).useAll StoreUse.rehearsal).load ⟨"long"⟩
        ⟨61, 499⟩).1 = some ⟨⟨"long"⟩, Record.rehearsal.trace.steps⟩ ∧
      (((DurableStore.empty .json (Span.ofSecs 60) ⟨0, 0⟩).useAll StoreUse.rehearsal).load ⟨"long"⟩
        ⟨61, 499⟩).1 = .ok (some ⟨⟨"long"⟩, Record.rehearsal.trace.steps⟩) ∧
      (((DurableStore.empty .json (Span.ofSecs 60) ⟨0, 0⟩).useAll StoreUse.rehearsal).load ⟨"long"⟩
        ⟨61, 500⟩).1 = .ok none ∧
      (((DurableStore.empty .json (Span.ofSecs 60) ⟨0, 0⟩).useAll StoreUse.rehearsal).load ⟨"short"⟩
          ⟨7, 0⟩).1 =
        .ok (((MemoryStore.empty (Span.ofSecs 0) ⟨0, 0⟩).useAll StoreUse.rehearsal).load ⟨"short"⟩
          ⟨7, 0⟩).1 := by
  have early := stores_serve_what_is_due (StoreUse.ordered_rehearsal ⟨61, 499⟩ (by decide)) ⟨"long"⟩
  have late := stores_serve_what_is_due (StoreUse.ordered_rehearsal ⟨61, 500⟩ (by decide)) ⟨"long"⟩
  have short := stores_serve_what_is_due (StoreUse.ordered_rehearsal ⟨7, 0⟩ (by decide)) ⟨"short"⟩
  refine ⟨(early.1 _ _).trans (by decide), ((early.2 StoreUse.dated_rehearsal).1 _ _).trans ?_,
    ((late.2 StoreUse.dated_rehearsal).1 _ _).trans ?_,
    (short.2 StoreUse.dated_rehearsal).2 (by decide) _ _ _ _⟩
  · exact congrArg Except.ok (by decide)
  · exact congrArg Except.ok (by decide)

end RollCall
