import Mathlib.Data.Finset.Card
import Mathlib.Data.List.Dedup
import RollCall.Broadcast.FanOut

set_option autoImplicit false

/-!
Recipients as keys: maps from recipients are determined by their lookups, and a list of recipients
without repetitions has the same members.
-/
namespace RollCall

namespace RecipientMap

variable {α : Type}

theorem lookup_cons (r s : RecipientId) (a : α) (es : List (RecipientId × α)) :
    List.lookup s ((r, a) :: es) = if s = r then some a else List.lookup s es := by
  rw [List.lookup_cons]
  by_cases same : s = r
  · simp [same]
  · simp [same, beq_eq_false_iff_ne.2 same]

theorem lookup_insertEntry (r s : RecipientId) (a : α) (es : List (RecipientId × α)) :
    List.lookup s (insertEntry r a es) = if s = r then some a else List.lookup s es := by
  induction es with
  | nil => exact lookup_cons r s a []
  | cons e rest ih =>
    obtain ⟨t, b⟩ := e
    unfold insertEntry
    split
    · exact lookup_cons r s a ((t, b) :: rest)
    · split
      · rename_i equal
        subst equal
        rw [lookup_cons, lookup_cons]
        by_cases same : s = r
        · simp only [same, ↓reduceIte]
        · simp only [same, ↓reduceIte]
      · rename_i different
        rw [lookup_cons, lookup_cons, ih]
        by_cases head : s = t
        · subst head
          simp only [Ne.symm different, ↓reduceIte]
        · simp only [head, ↓reduceIte]

@[simp] theorem get?_empty (r : RecipientId) : (empty : RecipientMap α).get? r = none := rfl

@[simp] theorem get?_insert (m : RecipientMap α) (r s : RecipientId) (a : α) :
    (m.insert r a).get? s = if s = r then some a else m.get? s :=
  lookup_insertEntry r s a m.entries

theorem keys_nodup (m : RecipientMap α) : m.keys.Nodup := by
  refine List.pairwise_map.2 (m.ordered.imp ?_)
  intro a b before same
  rw [same] at before
  exact String.lt_irrefl _ before

theorem mem_iff_lookup {es : List (RecipientId × α)} (once : (es.map Prod.fst).Nodup)
    (r : RecipientId) (a : α) : (r, a) ∈ es ↔ List.lookup r es = some a := by
  induction es with
  | nil => simp
  | cons e rest ih =>
    obtain ⟨t, b⟩ := e
    rw [List.map_cons, List.nodup_cons] at once
    rw [List.mem_cons, lookup_cons]
    by_cases same : r = t
    · subst same
      have absent : (r, a) ∉ rest := by
        intro member
        exact once.1 (List.mem_map.2 ⟨(r, a), member, rfl⟩)
      simp [absent, eq_comm]
    · simp [same, ih once.2]

theorem mem_entries_iff (m : RecipientMap α) (r : RecipientId) (a : α) :
    (r, a) ∈ m.entries ↔ m.get? r = some a :=
  mem_iff_lookup m.keys_nodup r a

theorem mem_keys_iff (m : RecipientMap α) (r : RecipientId) :
    r ∈ m.keys ↔ ∃ a, m.get? r = some a := by
  constructor
  · intro member
    obtain ⟨⟨s, a⟩, entry, rfl⟩ := List.mem_map.1 member
    exact ⟨a, (m.mem_entries_iff s a).1 entry⟩
  · intro held
    obtain ⟨a, found⟩ := held
    exact List.mem_map_of_mem (f := Prod.fst) ((m.mem_entries_iff r a).2 found)

theorem size_eq_card (m : RecipientMap α) : m.size = m.keys.toFinset.card := by
  rw [List.toFinset_card_of_nodup m.keys_nodup]
  simp [size, keys]

/-- Maps with the same lookups have the same entries in the same order. -/
theorem ext_get? {m n : RecipientMap α} (same : ∀ r, m.get? r = n.get? r) : m = n := by
  have entriesNodup (k : RecipientMap α) : k.entries.Nodup := List.Nodup.of_map _ k.keys_nodup
  have permuted : m.entries.Perm n.entries := by
    rw [List.perm_ext_iff_of_nodup (entriesNodup m) (entriesNodup n)]
    intro e
    obtain ⟨r, a⟩ := e
    rw [mem_entries_iff, mem_entries_iff, same r]
  have equal : m.entries = n.entries := by
    refine permuted.eq_of_pairwise ?_ m.ordered n.ordered
    intro a b _ _ before after
    exact absurd after (String.lt_asymm before)
  cases m
  cases n
  simpa using equal

theorem get?_foldl_insert {es : List (RecipientId × α)} (once : (es.map Prod.fst).Nodup)
    (m : RecipientMap α) (s : RecipientId) :
    (es.foldl (fun m e => m.insert e.1 e.2) m).get? s = (List.lookup s es).or (m.get? s) := by
  induction es generalizing m with
  | nil => rfl
  | cons e rest ih =>
    obtain ⟨r, a⟩ := e
    rw [List.map_cons, List.nodup_cons] at once
    rw [List.foldl_cons, ih once.2, get?_insert, lookup_cons]
    by_cases same : s = r
    · subst same
      have absent : List.lookup s rest = none := by
        rw [Option.eq_none_iff_forall_ne_some]
        intro b found
        exact once.1 (List.mem_map.2 ⟨(s, b), (mem_iff_lookup once.2 s b).2 found, rfl⟩)
      simp only [absent, ↓reduceIte, Option.none_or, Option.some_or]
    · simp only [same, ↓reduceIte]

/-- A map is given by its entries. -/
@[simp] theorem ofList_entries (m : RecipientMap α) : ofList m.entries = m := by
  refine ext_get? fun s => ?_
  rw [ofList, get?_foldl_insert m.keys_nodup, get?_empty, Option.or_none]
  rfl

end RecipientMap

namespace RecipientSet

@[simp] theorem ofRecipients_keys (m : RecipientSet) : ofRecipients m.keys = m := by
  have entries : m.keys.map (fun r => (r, ())) = m.entries := by
    rw [RecipientMap.keys, List.map_map]
    exact List.map_id m.entries
  rw [ofRecipients, entries, RecipientMap.ofList_entries]

theorem get?_ofList_unit (rs : List RecipientId) (m : RecipientSet) (s : RecipientId) :
    ((rs.map fun r => (r, ())).foldl (fun m e => m.insert e.1 e.2) m).get? s =
      if s ∈ rs then some () else m.get? s := by
  induction rs generalizing m with
  | nil => simp
  | cons r rest ih =>
    rw [List.map_cons, List.foldl_cons, ih]
    by_cases later : s ∈ rest
    · simp [later]
    · by_cases same : s = r
      · simp [same]
      · simp [later, same]

@[simp] theorem mem_keys_ofRecipients (rs : List RecipientId) (s : RecipientId) :
    s ∈ (ofRecipients rs).keys ↔ s ∈ rs := by
  rw [RecipientMap.mem_keys_iff]
  unfold ofRecipients RecipientMap.ofList
  rw [get?_ofList_unit]
  by_cases member : s ∈ rs
  · simp [member]
  · simp [member]

end RecipientSet

@[simp] theorem mem_distinct (r : RecipientId) (rs : List RecipientId) :
    r ∈ distinct rs ↔ r ∈ rs := by
  induction rs with
  | nil => simp [distinct]
  | cons s rest ih =>
    by_cases same : r = s
    · simp [distinct, same]
    · simp [distinct, ih, same]

theorem distinct_nodup (rs : List RecipientId) : (distinct rs).Nodup := by
  induction rs with
  | nil => exact List.nodup_nil
  | cons s rest ih =>
    rw [distinct, List.nodup_cons]
    exact ⟨by simp, ih.filter _⟩

end RollCall
