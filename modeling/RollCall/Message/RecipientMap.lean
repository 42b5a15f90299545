import RollCall.Message.Identity

set_option autoImplicit false

/-!
Maps from recipients to values, in the order of the recipients' names. Each recipient has at most
one value.
-/
namespace RollCall

/-- Entries whose names increase. -/
structure RecipientMap (α : Type) where
  entries : List (RecipientId × α)
  ordered : entries.Pairwise fun a b => a.1.text < b.1.text

namespace RecipientMap

variable {α : Type}

def empty : RecipientMap α := ⟨[], List.Pairwise.nil⟩

def insertEntry (r : RecipientId) (a : α) : List (RecipientId × α) → List (RecipientId × α)
  | [] => [(r, a)]
  | (s, b) :: rest =>
    if r.text < s.text then (r, a) :: (s, b) :: rest
    else if r = s then (r, a) :: rest
    else (s, b) :: insertEntry r a rest

theorem mem_insertEntry {r : RecipientId} {a : α} {es : List (RecipientId × α)}
    {e : RecipientId × α} (h : e ∈ insertEntry r a es) : e = (r, a) ∨ e ∈ es := by
  induction es with
  | nil => simpa [insertEntry] using h
  | cons f rest ih =>
    obtain ⟨s, b⟩ := f
    unfold insertEntry at h
    split at h
    · simpa using h
    · split at h
      · rcases List.mem_cons.1 h with h | h
        · exact .inl h
        · exact .inr (List.mem_cons_of_mem _ h)
      · rcases List.mem_cons.1 h with h | h
        · exact .inr (h ▸ List.mem_cons_self)
        · exact (ih h).imp id (List.mem_cons_of_mem _)

theorem text_lt_of_not_lt {r s : RecipientId} (h : ¬ r.text < s.text) (hne : r ≠ s) :
    s.text < r.text := by
  refine Std.lt_of_le_of_ne (String.not_lt.1 h) fun heq => hne ?_
  cases r
  cases s
  simp_all

theorem insertEntry_ordered (r : RecipientId) (a : α) {es : List (RecipientId × α)}
    (h : es.Pairwise fun a b => a.1.text < b.1.text) :
    (insertEntry r a es).Pairwise fun a b => a.1.text < b.1.text := by
  induction es with
  | nil => simp [insertEntry]
  | cons f rest ih =>
    obtain ⟨s, b⟩ := f
    obtain ⟨hf, hrest⟩ := List.pairwise_cons.1 h
    unfold insertEntry
    split
    · rename_i hlt
      refine List.pairwise_cons.2 ⟨?_, h⟩
      intro e he
      rcases List.mem_cons.1 he with rfl | he
      · exact hlt
      · exact String.lt_trans hlt (hf e he)
    · rename_i hnot
      split
      · rename_i heq
        subst heq
        exact List.pairwise_cons.2 ⟨hf, hrest⟩
      · rename_i hne
        refine List.pairwise_cons.2 ⟨?_, ih hrest⟩
        intro e he
        rcases mem_insertEntry he with rfl | he
        · exact text_lt_of_not_lt hnot hne
        · exact hf e he

def insert (m : RecipientMap α) (r : RecipientId) (a : α) : RecipientMap α :=
  ⟨insertEntry r a m.entries, insertEntry_ordered r a m.ordered⟩

def erase (m : RecipientMap α) (r : RecipientId) : RecipientMap α :=
  ⟨m.entries.filter fun e => !(e.1 == r), m.ordered.filter _⟩

/-- The last of several values of one recipient counts. -/
def ofList (es : List (RecipientId × α)) : RecipientMap α :=
  es.foldl (fun m e => m.insert e.1 e.2) empty

def keys (m : RecipientMap α) : List RecipientId := m.entries.map Prod.fst

def get? (m : RecipientMap α) (r : RecipientId) : Option α := List.lookup r m.entries

def contains (m : RecipientMap α) (r : RecipientId) : Bool := (m.get? r).isSome

def size (m : RecipientMap α) : Nat := m.entries.length

def isEmpty (m : RecipientMap α) : Bool := m.entries.isEmpty

end RecipientMap

/-- Sets of recipients, in the order of their names. -/
abbrev RecipientSet := RecipientMap Unit

namespace RecipientSet

def ofRecipients (rs : List RecipientId) : RecipientSet :=
  RecipientMap.ofList (rs.map fun r => (r, ()))

end RecipientSet

end RollCall
