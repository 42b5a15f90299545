import RollCall.Wire.Basic

set_option autoImplicit false

/-!
How objects are read by the names of their fields: fields of other names make no difference, and a
field that is absent is as good as one with the value that stands for it.
-/
namespace RollCall

namespace Wire

variable {key : String} {keys names : List String} {fields : List (String × Json)}
  {f : String × Json}

def among (keys : List String) (fields : List (String × Json)) : List (String × Json) :=
  fields.filter fun f => keys.contains f.1

/-- What an object has under a name. -/
def slot (fields : List (String × Json)) (name : String) : Slot :=
  match Json.lookup name fields with
  | some v => .given v
  | none => .absent

def distinctly (names : List String) (fields : List (String × Json)) : Bool :=
  names.all fun n => occurrences n fields ≤ 1

theorem slots?_object (names : List String) (fields : List (String × Json)) :
    slots? names (.object fields) =
      if distinctly names fields then some (names.map (slot fields)) else none := rfl

theorem lookup_among (known : key ∈ keys) :
    Json.lookup key (among keys fields) = Json.lookup key fields := by
  induction fields with
  | nil => rfl
  | cons f rest ih =>
    obtain ⟨k, v⟩ := f
    unfold Json.lookup among at *
    by_cases same : key = k
    · subst same
      rw [List.filter_cons_of_pos (by simpa using known), List.lookup_cons_self,
        List.lookup_cons_self]
    · have other : (key == k) = false := beq_eq_false_iff_ne.2 same
      rw [List.filter_cons]
      split
      · rw [List.lookup_cons, List.lookup_cons, other, ih]
      · rw [List.lookup_cons, other, ih]

theorem occurrences_among (known : key ∈ keys) :
    occurrences key (among keys fields) = occurrences key fields := by
  rw [occurrences, among, List.filter_filter, occurrences]
  congr 2
  funext f
  by_cases same : f.1 = key
  · simp [same, known]
  · simp [same]

theorem without_among :
    without key (among keys fields) = among keys (without key fields) := by
  simp only [without, among, List.filter_filter, Bool.and_comm]

theorem slots?_among (known : ∀ n ∈ names, n ∈ keys) :
    slots? names (.object (among keys fields)) = slots? names (.object fields) := by
  have alike : distinctly names (among keys fields) = distinctly names fields := by
    rw [distinctly, distinctly, Bool.eq_iff_iff, List.all_eq_true, List.all_eq_true]
    refine forall₂_congr fun n member => ?_
    rw [occurrences_among (known n member)]
  have slots : names.map (slot (among keys fields)) = names.map (slot fields) := by
    refine List.map_congr_left fun n member => ?_
    rw [slot, lookup_among (known n member), slot]
  rw [slots?_object, slots?_object, alike, slots]

theorem tagContent?_among {content : String} (tag : key ∈ keys) (held : content ∈ keys) :
    tagContent? key content (.object (among keys fields)) =
      tagContent? key content (.object fields) := by
  rw [tagContent?, tagContent?, lookup_among tag, lookup_among held]

theorem lookup_cons (n : String) : Json.lookup n (f :: fields) =
    if n = f.1 then some f.2 else Json.lookup n fields := by
  unfold Json.lookup
  rw [List.lookup_cons]
  by_cases same : n = f.1
  · simp [same]
  · simp [same, beq_eq_false_iff_ne.2 same]

theorem lookup_without {tag : String} (other : key ≠ tag) :
    Json.lookup key (without tag fields) = Json.lookup key fields := by
  induction fields with
  | nil => rfl
  | cons f rest ih =>
    obtain ⟨k, v⟩ := f
    unfold without at *
    by_cases same : k = tag
    · subst same
      rw [List.filter_cons_of_neg (by simp), ih, lookup_cons, if_neg other]
    · rw [List.filter_cons_of_pos (by simpa using same), lookup_cons, lookup_cons, ih]

theorem slot_cons (n : String) :
    slot (f :: fields) n = if n = f.1 then .given f.2 else slot fields n := by
  unfold slot
  rw [lookup_cons]
  by_cases same : n = f.1
  · rw [if_pos same, if_pos same]
  · rw [if_neg same, if_neg same]

theorem slot_of_absent (absent : Json.lookup key fields = none) : slot fields key = .absent := by
  rw [slot, absent]

theorem occurrences_of_absent (absent : Json.lookup key fields = none) :
    occurrences key fields = 0 := by
  rw [occurrences, List.length_eq_zero_iff, List.filter_eq_nil_iff]
  intro g member same
  have other := List.lookup_eq_none_iff.1 absent g member
  rw [beq_iff_eq.1 same, bne_self_eq_false] at other
  cases other

theorem distinctly_cons (absent : Json.lookup f.1 fields = none) :
    distinctly names (f :: fields) = distinctly names fields := by
  rw [distinctly, distinctly, Bool.eq_iff_iff, List.all_eq_true, List.all_eq_true]
  refine forall₂_congr fun n _ => ?_
  by_cases same : f.1 = n
  · subst same
    have once : occurrences f.1 (f :: fields) = 1 := by
      rw [occurrences, List.filter_cons, if_pos (beq_self_eq_true f.1), List.length_cons]
      exact congrArg (· + 1) (occurrences_of_absent absent)
    simp only [once, occurrences_of_absent absent, Nat.le_refl, Nat.zero_le]
  · rw [occurrences, List.filter_cons_of_neg (by simpa using same), occurrences]

theorem slots?_cons (absent : Json.lookup f.1 fields = none) :
    slots? names (.object (f :: fields)) =
      if distinctly names fields then
        some (names.map fun n => if n = f.1 then .given f.2 else slot fields n)
      else none := by
  rw [slots?_object, distinctly_cons absent, List.map_congr_left fun n _ => slot_cons n]

end Wire

end RollCall
