import Mathlib.Data.List.Basic
import Mathlib.Data.List.Nodup
import RollCall.Settings.Load

set_option autoImplicit false

/-!
Variables and the fields that they set. Each field has one variable under its name in capitals, and
what an environment says about the field is what stands in that variable.
-/
namespace RollCall

namespace SettingLayer

theorem value?_eq_findSome? (l : SettingLayer) (field : String) :
    l.value? field = l.reverse.findSome? (definition? field) := rfl

end SettingLayer

namespace Environment

def nameOf (field : String) : String := "SWITCHBOARD_" ++ field.toUpper

/-- A variable is about a field or a part of it, in whatever case its name is written. -/
def Concerns (field name : String) : Prop :=
  ∃ key, key? name = some key ∧
    (key.toLower = field ∨ SettingLayer.isPartOf field.toList key.toLower.toList = true)

/-- Variables for the fields are written in capitals, and there are none for parts of fields. -/
def Named (vars : List (String × String)) : Prop :=
  ∀ v ∈ vars, ∀ field ∈ Settings.fieldNames, Concerns field v.1 → v.1 = nameOf field

instance (field name : String) : Decidable (Concerns field name) :=
  match own : key? name with
  | none => isFalse (by simp [Concerns, own])
  | some key =>
    decidable_of_iff
      (key.toLower = field ∨ SettingLayer.isPartOf field.toList key.toLower.toList = true)
      (by simp [Concerns, own])

instance (vars : List (String × String)) : Decidable (Named vars) :=
  inferInstanceAs (Decidable (∀ v ∈ vars, ∀ field ∈ Settings.fieldNames,
    Concerns field v.1 → v.1 = nameOf field))

/-- An environment as processes have it, each name once. -/
structure Orderly (env : Environment) : Prop where
  once : (env.map Prod.fst).Nodup
  named : Named env

def stated? (vars : List (String × String)) (field : String) : Option SettingValue :=
  (vars.lookup (nameOf field)).map value

theorem key?_nameOf : ∀ field ∈ Settings.fieldNames, key? (nameOf field) = some field := by
  decide +kernel

theorem toLower_fieldName : ∀ field ∈ Settings.fieldNames, field.toLower = field := by
  decide +kernel

theorem definition?_self {field : String} (known : field ∈ Settings.fieldNames) (v : SettingValue) :
    SettingLayer.definition? field (field, v) = some v := by
  rw [SettingLayer.definition?, toLower_fieldName field known]
  exact if_pos rfl

theorem concerns_of_definition? {field name key : String} {v x : SettingValue}
    (own : key? name = some key) (defined : SettingLayer.definition? field (key, v) = some x) :
    Concerns field name := by
  refine ⟨key, own, ?_⟩
  simp only [SettingLayer.definition?] at defined
  split at defined
  · exact .inl ‹_›
  · split at defined
    · exact .inr ‹_›
    · cases defined

def said? (field : String) (v : String × String) : Option SettingValue :=
  (key? v.1).bind fun key => SettingLayer.definition? field (key, value v.2)

theorem said?_eq {vars : List (String × String)} (named : Named vars) {field : String}
    (known : field ∈ Settings.fieldNames) {v : String × String} (member : v ∈ vars) :
    said? field v = if v.1 = nameOf field then some (value v.2) else none := by
  unfold said?
  split
  · rename_i own
    rw [own, key?_nameOf field known, Option.bind_some, definition?_self known]
  · rename_i other
    rw [Option.eq_none_iff_forall_ne_some]
    intro x said
    obtain ⟨key, own, defined⟩ := Option.bind_eq_some_iff.1 said
    exact other (named v member field known (concerns_of_definition? own defined))

theorem value?_layer_eq_findSome? (env : Environment) (field : String) :
    env.layer.value? field = env.reverse.findSome? (said? field) := by
  rw [SettingLayer.value?_eq_findSome?, layer, ← List.filterMap_reverse, ← List.head?_filterMap,
    List.filterMap_filterMap, List.head?_filterMap]
  congr 1
  funext v
  rw [said?, Option.bind_map]
  rfl

theorem lookup_eq_none_iff {vars : List (String × String)} {name : String} :
    vars.lookup name = none ↔ name ∉ vars.map Prod.fst := by
  simp only [List.lookup_eq_none_iff, bne_iff_ne, List.mem_map, not_exists, not_and]
  exact ⟨fun other v member same => other v member same.symm,
    fun other v member same => other v member same.symm⟩

/-- With each name once, the last variable of a name is the one that is looked up. -/
theorem findSome?_reverse_eq_lookup {vars : List (String × String)}
    {said : String × String → Option SettingValue} {name : String}
    (once : (vars.map Prod.fst).Nodup)
    (same : ∀ v ∈ vars, said v = if v.1 = name then some (value v.2) else none) :
    vars.reverse.findSome? said = (vars.lookup name).map value := by
  induction vars with
  | nil => rfl
  | cons v vars ih =>
    obtain ⟨fresh, others⟩ := List.nodup_cons.1 once
    obtain ⟨own, s⟩ := v
    have head : said (own, s) = if own = name then some (value s) else none :=
      same (own, s) List.mem_cons_self
    rw [List.reverse_cons, List.findSome?_append,
      ih others fun v member => same v (List.mem_cons_of_mem _ member), List.findSome?_singleton,
      head, List.lookup_cons]
    -- The search begins at the end, so the head speaks only if no later variable does.
    by_cases first : own = name
    · have absent : vars.lookup name = none := lookup_eq_none_iff.2 (first ▸ fresh)
      rw [absent, if_pos first, first, beq_self_eq_true]
      rfl
    · rw [if_neg first, beq_eq_false_iff_ne.2 (Ne.symm first), Option.or_none]

/-- An orderly environment says about a field what stands in its variable. -/
theorem Orderly.value?_layer {env : Environment} (orderly : env.Orderly) {field : String}
    (known : field ∈ Settings.fieldNames) : env.layer.value? field = stated? env field := by
  rw [value?_layer_eq_findSome?]
  exact findSome?_reverse_eq_lookup orderly.once fun v => said?_eq orderly.named known

end Environment

end RollCall
