import RollCall.Settings.Layer

set_option autoImplicit false

/-!
Settings from variables of the environment. The names of such variables begin with `SWITCHBOARD_`
in any case; a value that looks like a truth value or a number is read as one.
-/
namespace RollCall

/-- Variables in the order in which they were set, each name once. -/
abbrev Environment := List (String × String)

namespace Environment

/-- What the names of variables for settings begin with, in lower case. -/
def mark : List Char := "switchboard_".toList

/-- The key of the setting that a variable is for. -/
def key? (name : String) : Option String :=
  let cs := name.toLower.toList
  if mark.isPrefixOf cs then some (String.ofList (cs.drop mark.length)) else none

def value (s : String) : SettingValue :=
  let word := s.toLower
  if word = "true" then .bool true
  else if word = "false" then .bool false
  else
    match Literal.int64? 10 s.toList with
    | some i => .int i
    | none =>
      match Literal.real? s.toList with
      | some x => .real x
      | none => .text s

/-- What an environment says about settings. -/
def layer (env : Environment) : SettingLayer :=
  env.filterMap fun v => (key? v.1).map fun key => (key, value v.2)

/-- Sets a variable that is not set. -/
def setNew (env : Environment) (name value : String) : Environment :=
  if (env.lookup name).isSome then env else env ++ [(name, value)]

theorem setNew_of_isSome {env : Environment} {name value : String}
    (h : (env.lookup name).isSome) : env.setNew name value = env := by
  simp [setNew, h]

theorem lookup_setNew (env : Environment) (name value other : String) :
    (env.setNew name value).lookup other =
      (env.lookup other).or (if other = name then some value else none) := by
  unfold setNew
  split
  next h =>
    obtain ⟨v, hv⟩ := Option.isSome_iff_exists.1 h
    split
    next he => simp [he, hv]
    next => simp
  next h =>
    rw [List.lookup_append, List.lookup_cons, List.lookup_nil]
    by_cases he : other = name
    · simp [he]
    · simp [he, beq_eq_false_iff_ne.2 he]

end Environment

end RollCall
