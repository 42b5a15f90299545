set_option autoImplicit false

/-!
Finite tables: keys with one value each, in the order in which the keys were first put.
-/
namespace RollCall

/-- Entries with distinct keys. -/
structure Table (κ α : Type) where
  entries : List (κ × α)
deriving Repr

namespace Table

variable {κ α : Type} [DecidableEq κ]

def empty : Table κ α := ⟨[]⟩

def getEntry (k : κ) : List (κ × α) → Option α
  | [] => none
  | (k', a) :: rest => if k' = k then some a else getEntry k rest

def get? (t : Table κ α) (k : κ) : Option α := getEntry k t.entries

def putEntry (k : κ) (a : α) : List (κ × α) → List (κ × α)
  | [] => [(k, a)]
  | (k', b) :: rest => if k' = k then (k, a) :: rest else (k', b) :: putEntry k a rest

/-- Gives a key a value in place of any other. -/
def put (t : Table κ α) (k : κ) (a : α) : Table κ α := ⟨putEntry k a t.entries⟩

def erase (t : Table κ α) (k : κ) : Table κ α := ⟨t.entries.filter fun e => e.1 ≠ k⟩

/-- Only the entries whose value passes. -/
def keep (t : Table κ α) (p : α → Bool) : Table κ α := ⟨t.entries.filter fun e => p e.2⟩

def size (t : Table κ α) : Nat := t.entries.length

def contains (t : Table κ α) (k : κ) : Bool := (t.get? k).isSome

@[simp] theorem get?_empty (k : κ) : (empty : Table κ α).get? k = none := rfl

theorem getEntry_putEntry (k j : κ) (a : α) (es : List (κ × α)) :
    getEntry j (putEntry k a es) = if k = j then some a else getEntry j es := by
  induction es with
  | nil => simp [putEntry, getEntry]
  | cons e rest ih => grind [putEntry, getEntry]

@[simp] theorem get?_put (t : Table κ α) (k j : κ) (a : α) :
    (t.put k a).get? j = if k = j then some a else t.get? j :=
  getEntry_putEntry k j a t.entries

theorem getEntry_filter_ne (k j : κ) (es : List (κ × α)) :
    getEntry j (es.filter fun e => e.1 ≠ k) = if k = j then none else getEntry j es := by
  induction es with
  | nil => simp [getEntry]
  | cons e rest ih => grind [getEntry]

@[simp] theorem get?_erase (t : Table κ α) (k j : κ) :
    (t.erase k).get? j = if k = j then none else t.get? j :=
  getEntry_filter_ne k j t.entries

end Table

end RollCall
