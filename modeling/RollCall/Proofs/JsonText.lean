import RollCall.Json.Parse
import RollCall.Json.Print
import RollCall.Proofs.Digits

set_option autoImplicit false

/-!
What is printed as JSON reads back as the value that was printed, up to the nesting that is read.
Strings may hold any characters. Values with numbers are left to those who print them.
-/
namespace RollCall.Json

variable {cs rest : List Char} {d fuel : Nat} {v : Json}

theorem skipGap_cons {c : Char} (solid : isGap c = false) (cs : List Char) :
    skipGap (c :: cs) = c :: cs := by
  rw [skipGap, List.dropWhile_cons_of_neg (by simp [solid])]

theorem hex4?_of_small {n : Nat} (small : n < 256) :
    hex4? '0' '0' (hexDigit (n / 16)) (hexDigit (n % 16)) = some n := by
  have high := Literal.digitValue?_digitChar (show n / 16 < 16 by omega)
  have low := Literal.digitValue?_digitChar (Nat.mod_lt n (show 0 < 16 by decide))
  have zero : Literal.digitValue? 16 '0' = some 0 := by decide
  simp only [hex4?, Literal.natural?, Literal.digits?, zero, hexDigit, high, low]
  congr 1
  omega

theorem stringBody?_named {c e : Char} (named : simpleEscape? e = some c) (rest : List Char) :
    stringBody? ('\\' :: e :: rest) = consChar c (stringBody? rest) := by
  rw [stringBody?.eq_def]
  split
  · rename_i quoted
    cases quoted
  · rename_i quoted
    cases quoted
  · rename_i escaped
    cases escaped
    cases named
  · rename_i escaped
    cases escaped
    rw [named]
  · rename_i other bare
    cases bare
    exact (other e rest rfl rfl).elim

/-- Each character of a string is read as it is escaped. -/
theorem stringBody?_escapeChar (c : Char) (rest : List Char) :
    stringBody? (escapeChar c ++ rest) = consChar c (stringBody? rest) := by
  have coded {n : Nat} (code : c.toNat = n) : c = Char.ofNat n := by
    rw [← code, Char.ofNat_toNat]
  unfold escapeChar
  split
  · subst_vars
    exact stringBody?_named rfl rest
  split
  · subst_vars
    exact stringBody?_named rfl rest
  split
  · subst_vars
    exact stringBody?_named rfl rest
  split
  · subst_vars
    exact stringBody?_named rfl rest
  split
  · subst_vars
    exact stringBody?_named rfl rest
  split
  · rename_i backspace
    rw [coded backspace]
    exact stringBody?_named rfl rest
  split
  · rename_i formFeed
    rw [coded formFeed]
    exact stringBody?_named rfl rest
  split
  · rename_i small
    have read := hex4?_of_small (n := c.toNat) (by omega)
    simp only [List.cons_append, List.nil_append, stringBody?, read, Char.ofNat_toNat]
    rw [if_neg (by omega), if_neg (by omega)]
  · rename_i quote backslash _ _ _ _ _ large
    simp only [List.cons_append, List.nil_append]
    rw [stringBody?.eq_def]
    split <;> simp_all

theorem stringBody?_escape (cs rest : List Char) :
    stringBody? (escape cs ++ '"' :: rest) = some (cs, rest) := by
  induction cs with
  | nil => simp [escape, stringBody?]
  | cons c cs ih =>
    have first : escape (c :: cs) = escapeChar c ++ escape cs := List.flatMap_cons
    rw [first, List.append_assoc, stringBody?_escapeChar, ih]
    rfl

/-- A value without numbers whose arrays and objects are nested at most so deeply. -/
inductive Plain : Nat → Json → Prop
  | null (d : Nat) : Plain d .null
  | bool (d : Nat) (b : Bool) : Plain d (.bool b)
  | string (d : Nat) (s : String) : Plain d (.string s)
  | array {d : Nat} {items : List Json} (each : ∀ v ∈ items, Plain d v) :
      Plain (d + 1) (.array items)
  | object {d : Nat} {fields : List (String × Json)} (each : ∀ f ∈ fields, Plain d f.2) :
      Plain (d + 1) (.object fields)

/-- The text of such a value begins neither with a gap nor with a closing bracket. -/
theorem Plain.print_eq_cons (plain : Plain d v) :
    ∃ c cs, print v = c :: cs ∧ isGap c = false ∧ c ≠ ']' := by
  cases plain with
  | null => exact ⟨_, _, rfl, by decide⟩
  | bool d b => cases b <;> exact ⟨_, _, rfl, by decide⟩
  | string => exact ⟨_, _, rfl, by decide⟩
  | array => exact ⟨_, _, rfl, by decide⟩
  | object => exact ⟨_, _, rfl, by decide⟩

/-- A value is read from its text, whatever follows, with two steps for each character of it. -/
def ReadsBack (d : Nat) (v : Json) : Prop :=
  ∀ fuel rest, 2 * (print v).length ≤ fuel → value? fuel d (print v ++ rest) = some (v, rest)

theorem items?_printItems {items : List Json} (each : ∀ w ∈ v :: items, ReadsBack d w)
    (enough : 2 * (printItems (v :: items)).length ≤ fuel) (rest : List Char) :
    items? fuel d (printItems (v :: items) ++ rest) = some (v :: items, rest) := by
  induction items generalizing v fuel with
  | nil =>
    simp only [printItems, List.length_append, List.length_singleton, List.append_assoc] at enough ⊢
    obtain ⟨fuel, rfl⟩ : ∃ k, fuel = k + 1 := ⟨fuel - 1, by omega⟩
    rw [items?, each v List.mem_cons_self fuel _ (by omega)]
    rfl
  | cons w items ih =>
    simp only [printItems, List.length_append, List.length_cons, List.append_assoc,
      List.cons_append] at enough ⊢
    obtain ⟨fuel, rfl⟩ : ∃ k, fuel = k + 1 := ⟨fuel - 1, by omega⟩
    have later : items? fuel d (printItems (w :: items) ++ rest) = some (w :: items, rest) :=
      ih (fun x member => each x (List.mem_cons_of_mem v member)) (by omega)
    rw [items?, each v List.mem_cons_self fuel _ (by omega)]
    simp only [skipGap_cons (show isGap ',' = false by decide), later, Option.map_some]

theorem fields?_printFields {k : String} {fields : List (String × Json)}
    (each : ∀ f ∈ (k, v) :: fields, ReadsBack d f.2)
    (enough : 2 * (printFields ((k, v) :: fields)).length ≤ fuel) (rest : List Char) :
    fields? fuel d (printFields ((k, v) :: fields) ++ rest) = some ((k, v) :: fields, rest) := by
  have quoteSolid : isGap '"' = false := by decide
  have colonSolid : isGap ':' = false := by decide
  have first : ReadsBack d v := each (k, v) List.mem_cons_self
  induction fields generalizing k v fuel with
  | nil =>
    simp only [printFields, quote, List.length_append, List.length_cons, List.append_assoc,
      List.cons_append, List.nil_append] at enough ⊢
    obtain ⟨fuel, rfl⟩ : ∃ k, fuel = k + 1 := ⟨fuel - 1, by omega⟩
    rw [fields?]
    simp only [skipGap_cons quoteSolid, stringBody?_escape, skipGap_cons colonSolid,
      first fuel _ (by omega), skipGap_cons (show isGap '}' = false by decide),
      String.ofList_toList]
  | cons f fields ih =>
    obtain ⟨l, w⟩ := f
    simp only [printFields, quote, List.length_append, List.length_cons, List.append_assoc,
      List.cons_append, List.nil_append] at enough ⊢
    obtain ⟨fuel, rfl⟩ : ∃ k, fuel = k + 1 := ⟨fuel - 1, by omega⟩
    have later : fields? fuel d (printFields ((l, w) :: fields) ++ rest) =
        some ((l, w) :: fields, rest) :=
      ih (fun x member => each x (List.mem_cons_of_mem (k, v) member)) (by omega)
        (each (l, w) (List.mem_cons_of_mem _ List.mem_cons_self))
    rw [fields?]
    simp only [skipGap_cons quoteSolid, stringBody?_escape, skipGap_cons colonSolid,
      first fuel _ (by omega), skipGap_cons (show isGap ',' = false by decide), later,
      String.ofList_toList, Option.map_some]

theorem readsBack_array {items : List Json} (plain : ∀ v ∈ items, Plain d v)
    (each : ∀ v ∈ items, ReadsBack d v) : ReadsBack (d + 1) (.array items) := by
  intro fuel rest enough
  simp only [print, List.length_cons] at enough
  obtain ⟨fuel, rfl⟩ : ∃ k, fuel = k + 1 := ⟨fuel - 1, by omega⟩
  rw [print, List.cons_append, value?, skipGap_cons (by decide)]
  cases items with
  | nil => rfl
  | cons v items =>
    have read : items? fuel d (printItems (v :: items) ++ rest) = some (v :: items, rest) :=
      items?_printItems each (by omega) rest
    obtain ⟨c, cs, first, solid, opening⟩ := (plain v List.mem_cons_self).print_eq_cons
    obtain ⟨tail, text⟩ : ∃ tail, printItems (v :: items) ++ rest = c :: tail := by
      cases items <;> simp [printItems, first]
    rw [text] at read ⊢
    simp only [skipGap_cons solid]
    split
    · rename_i closed
      cases closed
      exact (opening rfl).elim
    · rw [read]
      rfl

theorem readsBack_object {fields : List (String × Json)} (each : ∀ f ∈ fields, ReadsBack d f.2) :
    ReadsBack (d + 1) (.object fields) := by
  intro fuel rest enough
  simp only [print, List.length_cons] at enough
  obtain ⟨fuel, rfl⟩ : ∃ k, fuel = k + 1 := ⟨fuel - 1, by omega⟩
  rw [print, List.cons_append, value?, skipGap_cons (by decide)]
  cases fields with
  | nil => rfl
  | cons f fields =>
    obtain ⟨k, v⟩ := f
    have read : fields? fuel d (printFields ((k, v) :: fields) ++ rest) =
        some ((k, v) :: fields, rest) :=
      fields?_printFields each (by omega) rest
    obtain ⟨tail, text⟩ : ∃ tail, printFields ((k, v) :: fields) ++ rest = '"' :: tail := by
      cases fields <;> simp [printFields, quote]
    rw [text] at read ⊢
    simp only [skipGap_cons (show isGap '"' = false by decide)]
    exact congrArg (Option.map _) read

theorem Plain.readsBack (plain : Plain d v) : ReadsBack d v := by
  induction plain with
  | null d =>
    intro fuel rest enough
    obtain ⟨fuel, rfl⟩ : ∃ k, fuel = k + 1 := ⟨fuel - 1, by simp [print] at enough; omega⟩
    rfl
  | bool d b =>
    intro fuel rest enough
    cases b
    · obtain ⟨fuel, rfl⟩ : ∃ k, fuel = k + 1 := ⟨fuel - 1, by simp [print] at enough; omega⟩
      rfl
    · obtain ⟨fuel, rfl⟩ : ∃ k, fuel = k + 1 := ⟨fuel - 1, by simp [print] at enough; omega⟩
      rfl
  | string d s =>
    intro fuel rest enough
    obtain ⟨fuel, rfl⟩ : ∃ k, fuel = k + 1 := ⟨fuel - 1, by simp [print, quote] at enough; omega⟩
    rw [print, quote, List.cons_append, List.append_assoc, value?, skipGap_cons (by decide)]
    simp only [List.cons_append, List.nil_append, stringBody?_escape, Option.map_some,
      String.ofList_toList]
  | array each ih => exact readsBack_array each ih
  | object each ih => exact readsBack_object ih

/-- A value that is not nested too deeply is the one that its text holds. -/
theorem parse?_render (plain : Plain greatestDepth v) : parse? v.render = some v := by
  have read := plain.readsBack (3 * (print v).length + 3) [] (by omega)
  rw [List.append_nil] at read
  simp only [parse?, render, String.toList_ofList, read]
  rfl

end RollCall.Json
