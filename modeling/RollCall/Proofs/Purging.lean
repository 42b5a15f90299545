import Mathlib.Data.Set.Card
import RollCall.Proofs.Expiry

set_option autoImplicit false

/-!
What purges and sweeps remove: of the records in a store, whatever it has been used for and whatever
was put into it from outside, those that have expired or cannot be read, and no others.
-/
namespace RollCall

namespace Table

section Keys

variable {κ α : Type} [DecidableEq κ] {t : Table κ α}

theorem mem_of_get? {k : κ} {a : α} (found : t.get? k = some a) : (k, a) ∈ t.entries := by
  obtain ⟨es⟩ := t
  have held : getEntry k es = some a := found
  show (k, a) ∈ es
  clear found
  induction es with
  | nil => cases held
  | cons e rest ih =>
    obtain ⟨k', b⟩ := e
    rw [getEntry] at held
    split at held
    · rename_i same
      cases held
      rw [same]
      exact List.mem_cons_self
    · exact List.mem_cons_of_mem _ (ih held)

theorem Distinct.get?_of_mem (distinct : t.Distinct) {k : κ} {a : α} (member : (k, a) ∈ t.entries) :
    t.get? k = some a := by
  obtain ⟨es⟩ := t
  show getEntry k es = some a
  have member' : (k, a) ∈ es := member
  clear member
  induction es with
  | nil => cases member'
  | cons e rest ih =>
    obtain ⟨k', b⟩ := e
    obtain ⟨fresh, others⟩ := List.nodup_cons.1 distinct
    rw [getEntry]
    rcases List.mem_cons.1 member' with first | later
    · cases first
      rw [if_pos rfl]
    · have listed : k ∈ rest.map Prod.fst := List.mem_map_of_mem (f := Prod.fst) later
      have different : k' ≠ k := fun same => fresh (same ▸ listed)
      rw [if_neg different]
      exact ih others later

/-- As many entries leave a table as it has keys with a value that does not pass. -/
theorem Distinct.size_sub_size_keep (distinct : t.Distinct) (p : α → Bool) :
    t.size - (t.keep p).size = {k | ∃ a, t.get? k = some a ∧ p a = false}.ncard := by
  let left := t.entries.filter fun e => !p e.2
  have once : (left.map Prod.fst).Nodup := distinct.filter fun e => !p e.2
  have keys : {k | ∃ a, t.get? k = some a ∧ p a = false} = ↑(left.map Prod.fst).toFinset := by
    ext k
    simp only [Set.mem_ofPred_eq, List.coe_toFinset, List.mem_map, left, List.mem_filter,
      Bool.not_eq_true']
    constructor
    · intro present
      obtain ⟨a, found, fails⟩ := present
      exact ⟨(k, a), ⟨mem_of_get? found, fails⟩, rfl⟩
    · intro present
      obtain ⟨⟨k', a⟩, ⟨member, fails⟩, rfl⟩ := present
      exact ⟨a, distinct.get?_of_mem member, fails⟩
  have parts : t.size = (t.keep p).size + left.length :=
    t.entries.length_eq_length_filter_add fun e => p e.2
  rw [keys, Set.ncard_coe_finset, List.toFinset_card_of_nodup once, List.length_map, parts,
    Nat.add_sub_cancel_left]

end Keys

variable {κ α : Type} [DecidableEq κ] {read : α → Option Record} {t t' : Table κ α}
  {now : Timestamp}

/-- The keys under which a record has expired or cannot be read. -/
def dead (read : α → Option Record) (t : Table κ α) (now : Timestamp) : Set κ :=
  {k | ∃ a, t.get? k = some a ∧ ∀ r, read a = some r → r.expiresAt ≤ now}

/-- From one table to another the dead records are removed and no others. -/
structure Sheds (read : α → Option Record) (now : Timestamp) (t t' : Table κ α) : Prop where
  removed : ∀ k ∈ t.dead read now, t'.get? k = none
  untouched : ∀ k ∉ t.dead read now, t'.get? k = t.get? k

/-- Nothing that is left is dead. -/
theorem Sheds.clean (sheds : Sheds read now t t') : t'.dead read now = ∅ := by
  rw [Set.eq_empty_iff_forall_notMem]
  intro k member
  obtain ⟨a, found, expired⟩ := member
  by_cases gone : k ∈ t.dead read now
  · rw [sheds.removed k gone] at found
    cases found
  · rw [sheds.untouched k gone] at found
    exact gone ⟨a, found, expired⟩

/-- What is dead right after it was put does not stay. -/
theorem Sheds.get?_put {k : κ} {a : α} (sheds : Sheds read now (t.put k a) t')
    (expired : ∀ r, read a = some r → r.expiresAt ≤ now) : t'.get? k = none := by
  refine sheds.removed k ⟨a, ?_, expired⟩
  rw [Table.get?_put, if_pos rfl]

section Keep

variable {p : α → Bool} (exact : ∀ a, p a = false ↔ ∀ r, read a = some r → r.expiresAt ≤ now)
include exact

theorem Distinct.sheds_keep (distinct : t.Distinct) : Sheds read now t (t.keep p) := by
  constructor
  · intro k gone
    obtain ⟨a, found, expired⟩ := gone
    rw [distinct.get?_keep, found, Option.filter_some, (exact a).2 expired]
    rfl
  · intro k stays
    rw [distinct.get?_keep]
    cases found : t.get? k with
    | none => rfl
    | some a =>
      have passes : p a = true := by
        rw [← Bool.not_eq_false, exact]
        exact fun expired => stays ⟨a, found, expired⟩
      rw [Option.filter_some, if_pos passes]

theorem Distinct.size_sub_size_keep_eq_ncard_dead (distinct : t.Distinct) :
    t.size - (t.keep p).size = (t.dead read now).ncard := by
  rw [distinct.size_sub_size_keep]
  congr 1
  ext k
  simp only [Set.mem_ofPred_eq, dead, exact]

end Keep

omit [DecidableEq κ] in
theorem keep_keep (t : Table κ α) (p : α → Bool) : (t.keep p).keep p = t.keep p := by
  simp only [keep, List.filter_filter, Bool.and_self]

end Table

theorem Span.totalNanos_zero : zero.totalNanos = 0 := by decide

theorem Timestamp.add_zero {t : Timestamp} (fits : t.nanos < 2000000000) :
    t.add Span.zero = t := by
  rw [add, Span.totalNanos_zero]
  split
  · rw [if_pos (by exact fits)]
    rfl
  · rename_i plain
    have small : t.nanos < 1000000000 := Nat.not_le.1 plain
    have whole : t.nanos / 1000000000 = 0 := Nat.div_eq_of_lt small
    have rest : t.nanos % 1000000000 = t.nanos := Nat.mod_eq_of_lt small
    obtain ⟨seconds, nanos⟩ := t
    simp only [Nat.add_zero, whole, rest, Nat.cast_zero, Int.add_zero]

theorem Timestamp.nanos_of_inCalendar {t : Timestamp} (known : t.inCalendar = true) :
    t.nanos < 2000000000 := by
  simp only [inCalendar, Bool.and_eq_true, Bool.or_eq_true, decide_eq_true_eq] at known
  omega

/-- Whatever becomes of its trace, a record that is read expires when it was to. -/
theorem Record.expiresAt_of_decode?_encode {r r' : Record} (known : r.expiresAt.inCalendar = true)
    (read : decode? r.encode = some r') : r'.expiresAt = r.expiresAt := by
  have parsed : Json.parse? r.encode = some r.toJson := Json.parse?_render (r.plain 123)
  rw [decode?, parsed, Option.bind_some] at read
  simp [ofJson?, toJson, Wire.slots?, Wire.occurrences, Json.lookup, List.lookup_cons,
    Wire.required, Timestamp.ofJson?_toJson known] at read
  obtain ⟨trace, -, same⟩ := Option.bind_eq_some_iff.1 read
  cases same
  rfl

/-- A record that is read back from its own bytes expires when it was to. -/
def RecordCodec.KeepsExpiry (codec : RecordCodec) : Prop :=
  ∀ r r', r.expiresAt.inCalendar = true → codec.decode? (codec.encode r) = some r' →
    r'.expiresAt = r.expiresAt

theorem RecordCodec.keepsExpiry_json : json.KeepsExpiry := by
  intro r r' known read
  rw [decode?_encode_json] at read
  exact Record.expiresAt_of_decode?_encode known read

namespace MemoryStore

/-- The states that a store comes to, however and at whatever times it is used. -/
inductive Reached : MemoryStore → Prop
  | opened (interval : Span) (now : Timestamp) : Reached (empty interval now)
  | used {s : MemoryStore} (reached : Reached s) (now : Timestamp) (u : StoreUse) :
    Reached (s.use now u)

variable {s : MemoryStore} {now : Timestamp}

theorem distinct_sweepIfDue (distinct : s.entries.Distinct) :
    (s.sweepIfDue now).entries.Distinct := by
  unfold sweepIfDue
  split
  · exact distinct.filter _
  · exact distinct

theorem Reached.distinct (reached : s.Reached) : s.entries.Distinct := by
  induction reached with
  | opened => exact List.nodup_nil
  | @used s reached now u ih =>
    cases u with
    | save trace ttl =>
      simp only [use, save_eq]
      split
      · rename_i saved
        split at saved
        · cases saved
          exact distinct_sweepIfDue (ih.put _ _)
        · cases saved
      · exact ih
    | load id =>
      simp only [use, load]
      split
      · exact ih
      · split
        · exact ih
        · exact ih.filter _
    | purge => exact ih.filter _
    | reopen interval => exact ih

theorem isLive_eq_false_iff (e : MemoryEntry) :
    e.isLive now = false ↔ ∀ r, readEntry e = some r → r.expiresAt ≤ now := by
  simp [MemoryEntry.isLive, readEntry, Timestamp.lt_iff_not_le]

theorem purge_purge (s : MemoryStore) (now : Timestamp) :
    (s.purge now).2.purge now = (0, (s.purge now).2) := by
  simp only [purge, Table.keep_keep, Nat.sub_self]

theorem sheds_purge (distinct : s.entries.Distinct) :
    Table.Sheds readEntry now s.entries (s.purge now).2.entries :=
  distinct.sheds_keep isLive_eq_false_iff

theorem sheds_sweepIfDue (distinct : s.entries.Distinct) (due : s.schedule.isDue now = true) :
    Table.Sheds readEntry now s.entries (s.sweepIfDue now).entries := by
  rw [sweepIfDue, if_pos due]
  exact sheds_purge distinct

theorem fst_purge (distinct : s.entries.Distinct) :
    (s.purge now).1 = (s.entries.dead readEntry now).ncard :=
  distinct.size_sub_size_keep_eq_ncard_dead isLive_eq_false_iff

/-- A save that sweeps does so after its own insertion. -/
theorem sheds_save (distinct : s.entries.Distinct) (trace : RequestTrace) {ttl : Span}
    (accepted : accepts ttl now = true) (due : s.schedule.isDue now = true) :
    ∃ saved, s.save trace ttl now = .ok saved ∧
      Table.Sheds readEntry now (s.entries.put trace.requestId ⟨trace, now.add ttl⟩)
        saved.entries := by
  refine ⟨_, (s.save_eq trace ttl now).trans (if_pos accepted), ?_⟩
  exact sheds_sweepIfDue (s := { s with entries := _ }) (distinct.put _ _) due

end MemoryStore

namespace DurableStore

variable {codec : RecordCodec}

/--
The states that a store comes to, however and at whatever times it is used, also when any bytes are
put into it from outside under any key.
-/
inductive Reached : DurableStore codec → Prop
  | opened (interval : Span) (now : Timestamp) : Reached (empty codec interval now)
  | used {s : DurableStore codec} (reached : Reached s) (now : Timestamp) (u : StoreUse) :
    Reached (s.use now u)
  | written {s : DurableStore codec} (reached : Reached s) (key bytes : ByteArray) :
    Reached (s.putBytes key bytes)

variable {s : DurableStore codec} {now : Timestamp}

theorem distinct_sweepIfDue (distinct : s.records.Distinct) :
    (s.sweepIfDue now).records.Distinct := by
  unfold sweepIfDue
  split
  · exact distinct.filter _
  · exact distinct

theorem Reached.distinct (reached : s.Reached) : s.records.Distinct := by
  induction reached with
  | opened => exact List.nodup_nil
  | written _ key bytes ih => exact ih.put key bytes
  | @used s reached now u ih =>
    cases u with
    | save trace ttl =>
      simp only [use]
      by_cases accepted : Accepts ttl now
      · rw [save_of_accepts accepted]
        exact distinct_sweepIfDue (ih.put _ _)
      · obtain ⟨fault, refused⟩ := save_of_refused s trace accepted
        rw [refused]
        exact ih
    | load id =>
      simp only [use, load]
      split
      · exact ih
      · split
        · exact ih
        · split
          · exact ih
          · exact ih.filter _
    | purge => exact ih.filter _
    | reopen interval => exact ih

theorem isKept_eq_false_iff (bytes : ByteArray) :
    isKept codec now bytes = false ↔ ∀ r, codec.decode? bytes = some r → r.expiresAt ≤ now := by
  unfold isKept
  split <;> rename_i read <;> simp [read, Record.isLive, Timestamp.lt_iff_not_le]

theorem purge_purge (s : DurableStore codec) (now : Timestamp) :
    (s.purge now).2.purge now = (0, (s.purge now).2) := by
  simp only [purge, Table.keep_keep, Nat.sub_self]

theorem sheds_purge (distinct : s.records.Distinct) :
    Table.Sheds codec.decode? now s.records (s.purge now).2.records :=
  distinct.sheds_keep isKept_eq_false_iff

theorem sheds_sweepIfDue (distinct : s.records.Distinct) (due : s.schedule.isDue now = true) :
    Table.Sheds codec.decode? now s.records (s.sweepIfDue now).records := by
  rw [sweepIfDue, if_pos due]
  exact sheds_purge distinct

theorem fst_purge (distinct : s.records.Distinct) :
    (s.purge now).1 = (s.records.dead codec.decode? now).ncard :=
  distinct.size_sub_size_keep_eq_ncard_dead isKept_eq_false_iff

/-- A save that sweeps does so after its own insertion. -/
theorem sheds_save (distinct : s.records.Distinct) (trace : RequestTrace) {ttl : Span}
    (accepted : accepts ttl now = true) (due : s.schedule.isDue now = true) :
    ∃ saved, s.save trace ttl now = .ok saved ∧
      Table.Sheds codec.decode? now
        (s.records.put trace.requestId.key (codec.encode ⟨now.add ttl, trace⟩)) saved.records := by
  refine ⟨_, save_of_accepts (of_decide_eq_true accepted), ?_⟩
  exact sheds_sweepIfDue (s := s.putBytes trace.requestId.key (codec.encode ⟨now.add ttl, trace⟩))
    (distinct.put _ _) due

end DurableStore

/--
A purge of either store, whatever was done to it before and whatever bytes were put into the durable
one, removes the records that have expired and those that cannot be read, counts them and leaves all
others as they are; a second purge finds nothing. A save whose sweep is due does the same after its
own insertion, so that a trace that is kept for no time is gone right away. This holds however
records are written as bytes.
-/
theorem purges_are_exact (codec : RecordCodec) (now : Timestamp) :
    (∀ s : MemoryStore, s.Reached →
      (Table.Sheds MemoryStore.readEntry now s.entries (s.purge now).2.entries ∧
        (s.purge now).1 = (s.entries.dead MemoryStore.readEntry now).ncard ∧
        (s.purge now).2.purge now = (0, (s.purge now).2)) ∧
      ∀ (trace : RequestTrace) (ttl : Span), MemoryStore.accepts ttl now = true →
        s.schedule.isDue now = true → ∃ saved, s.save trace ttl now = .ok saved ∧
          Table.Sheds MemoryStore.readEntry now
            (s.entries.put trace.requestId ⟨trace, now.add ttl⟩) saved.entries ∧
          saved.entries.dead MemoryStore.readEntry now = ∅ ∧
          (ttl = Span.zero → now.nanos < 2000000000 →
            saved.entries.get? trace.requestId = none)) ∧
    ∀ s : DurableStore codec, s.Reached →
      (Table.Sheds codec.decode? now s.records (s.purge now).2.records ∧
        (s.purge now).1 = (s.records.dead codec.decode? now).ncard ∧
        (s.purge now).2.purge now = (0, (s.purge now).2)) ∧
      ∀ (trace : RequestTrace) (ttl : Span), DurableStore.accepts ttl now = true →
        s.schedule.isDue now = true → ∃ saved, s.save trace ttl now = .ok saved ∧
          Table.Sheds codec.decode? now
            (s.records.put trace.requestId.key (codec.encode ⟨now.add ttl, trace⟩)) saved.records ∧
          saved.records.dead codec.decode? now = ∅ ∧
          (ttl = Span.zero → now.inCalendar = true → codec.KeepsExpiry →
            saved.records.get? trace.requestId.key = none) := by
  constructor
  · intro s reached
    refine ⟨⟨MemoryStore.sheds_purge reached.distinct, MemoryStore.fst_purge reached.distinct,
      s.purge_purge now⟩, ?_⟩
    intro trace ttl accepted due
    obtain ⟨saved, done, sheds⟩ := MemoryStore.sheds_save reached.distinct trace accepted due
    refine ⟨saved, done, sheds, sheds.clean, ?_⟩
    intro brief fits
    subst brief
    rw [Timestamp.add_zero fits] at sheds
    refine sheds.get?_put fun r read => ?_
    cases read
    exact Timestamp.le_refl now
  · intro s reached
    refine ⟨⟨DurableStore.sheds_purge reached.distinct, DurableStore.fst_purge reached.distinct,
      s.purge_purge now⟩, ?_⟩
    intro trace ttl accepted due
    obtain ⟨saved, done, sheds⟩ := DurableStore.sheds_save reached.distinct trace accepted due
    refine ⟨saved, done, sheds, sheds.clean, ?_⟩
    intro brief known keeps
    subst brief
    rw [Timestamp.add_zero (Timestamp.nanos_of_inCalendar known)] at sheds
    refine sheds.get?_put fun r read => ?_
    rw [keeps _ r known read]
    exact Timestamp.le_refl now

def MemoryStore.rehearsal : MemoryStore :=
  ((empty (Span.ofSecs 60) ⟨0, 0⟩).use ⟨0, 0⟩
    (.save (RequestTrace.empty ⟨"short"⟩) (Span.ofSecs 5))).use ⟨0, 0⟩
    (.save (RequestTrace.empty ⟨"long"⟩) (Span.ofSecs 3600))

/-- The same, and two values that are no records under keys that are no texts. -/
def DurableStore.rehearsal : DurableStore .json :=
  ((((empty .json (Span.ofSecs 60) ⟨0, 0⟩).use ⟨0, 0⟩
    (.save (RequestTrace.empty ⟨"short"⟩) (Span.ofSecs 5))).putBytes ⟨#[0xff]⟩
      "no record".toUTF8).putBytes ⟨#[]⟩ ⟨#[0xff, 0xfe]⟩).use ⟨0, 0⟩
    (.save (RequestTrace.empty ⟨"long"⟩) (Span.ofSecs 3600))

theorem MemoryStore.reached_rehearsal : rehearsal.Reached := ((Reached.opened _ _).used _ _).used _ _

theorem DurableStore.reached_rehearsal : rehearsal.Reached :=
  ((((Reached.opened _ _).used _ _).written _ _).written _ _).used _ _

theorem purges_are_exact_rehearsal :
    (MemoryStore.rehearsal.purge ⟨60, 0⟩).1 = 1 ∧
    (MemoryStore.rehearsal.entries.dead MemoryStore.readEntry ⟨60, 0⟩).ncard = 1 ∧
    (DurableStore.rehearsal.purge ⟨60, 0⟩).1 = 3 ∧
    (DurableStore.rehearsal.records.dead RecordCodec.json.decode? ⟨60, 0⟩).ncard = 3 ∧
    (∃ saved, MemoryStore.rehearsal.save (RequestTrace.empty ⟨"brief"⟩) Span.zero ⟨60, 0⟩ =
        .ok saved ∧ saved.entries.get? ⟨"brief"⟩ = none) ∧
    ∃ saved, DurableStore.rehearsal.save (RequestTrace.empty ⟨"brief"⟩) Span.zero ⟨60, 0⟩ =
        .ok saved ∧ saved.records.get? (RequestId.key ⟨"brief"⟩) = none := by
  have memory := (purges_are_exact .json ⟨60, 0⟩).1 _ MemoryStore.reached_rehearsal
  have durable := (purges_are_exact .json ⟨60, 0⟩).2 _ DurableStore.reached_rehearsal
  have one : (MemoryStore.rehearsal.purge ⟨60, 0⟩).1 = 1 := by decide
  have three : (DurableStore.rehearsal.purge ⟨60, 0⟩).1 = 3 := by decide +kernel
  obtain ⟨saved, done, -, -, gone⟩ :=
    memory.2 (RequestTrace.empty ⟨"brief"⟩) Span.zero (by decide) (by decide)
  obtain ⟨saved', done', -, -, gone'⟩ :=
    durable.2 (RequestTrace.empty ⟨"brief"⟩) Span.zero (by decide) (by decide +kernel)
  exact ⟨one, memory.1.2.1.symm.trans one, three, durable.1.2.1.symm.trans three,
    ⟨saved, done, gone rfl (by decide)⟩, saved', done',
    gone' rfl (by decide) RecordCodec.keepsExpiry_json⟩

end RollCall
