import RollCall.Number.Literal

set_option autoImplicit false

/-!
TOML values, and how tables come about. A table is opened by a header, by a dotted key or by a
header further down; what one way has closed no other way may open again.
-/
namespace RollCall.Toml

/-- How a table came about. -/
inductive Origin where
  /-- Its own header opened it. -/
  | header
  /-- The header of a table within it opened it. -/
  | inner
  /-- A dotted key opened it. -/
  | dotted
  /-- It is written between braces. -/
  | braces
deriving DecidableEq, Repr

inductive Value where
  | string (s : String)
  | integer (i : Int)
  | float (x : Real)
  | boolean (b : Bool)
  | datetime (text : String)
  | array (items : List Value)
  | table (origin : Origin) (entries : List (String × Value))
  /-- Tables under headers with double brackets. -/
  | tables (entries : List (List (String × Value)))
deriving Repr

abbrev Table := List (String × Value)

namespace Table

/-- Puts a value in the place of one that is there. -/
def replace (t : Table) (key : String) (v : Value) : Table :=
  t.map fun e => if e.1 == key then (key, v) else e

/-- What a header makes of what is under its last key: a table, or the next one of several. -/
def opened? (isNext : Bool) : Option Value → Option Value
  | none => some (if isNext then .tables [[]] else .table .header [])
  | some (.table .inner es) => if isNext then none else some (.table .header es)
  | some (.tables ts) => if isNext then some (.tables (ts ++ [[]])) else none
  | some _ => none

/-- Puts a value under a key, in place of one that is there. -/
def put (t : Table) (key : String) (v : Value) : Table :=
  if (t.lookup key).isSome then t.replace key v else t ++ [(key, v)]

/-- Opens the table of a header; one with double brackets opens the next of several tables. -/
def open? (isNext : Bool) : List String → Table → Option Table
  | [], _ => none
  | [k], t => (opened? isNext (t.lookup k)).map fun v => t.put k v
  | k :: rest, t =>
    match t.lookup k with
    | none => (open? isNext rest []).map fun es => t.put k (.table .inner es)
    | some (.table .braces _) => none
    | some (.table origin es) => (open? isNext rest es).map fun es => t.put k (.table origin es)
    | some (.tables ts) =>
      (open? isNext rest (ts.getLastD [])).map fun es => t.put k (.tables (ts.dropLast ++ [es]))
    | some _ => none

/-- Adds a value under a dotted key; `fits` says whether the table may take one itself. -/
def add? (v : Value) : Bool → List String → Table → Option Table
  | _, [], _ => none
  | fits, [k], t => if fits && (t.lookup k).isNone then some (t ++ [(k, v)]) else none
  | _, k :: rest, t =>
    match t.lookup k with
    | none => (add? v true rest []).map fun es => t.put k (.table .dotted es)
    | some (.table .dotted es) =>
      (add? v true rest es).map fun es => t.put k (.table .dotted es)
    | some (.table .inner es) =>
      (add? v false rest es).map fun es => t.put k (.table .inner es)
    | some (.tables ts) =>
      (add? v false rest (ts.getLastD [])).map fun es => t.put k (.tables (ts.dropLast ++ [es]))
    | some _ => none

/-- Adds a value to the table that the last header opened, at the end of a path. -/
def addUnder? (key : List String) (v : Value) : List String → Table → Option Table
  | [], t => add? v true key t
  | k :: rest, t =>
    match t.lookup k with
    | some (.table origin es) =>
      (addUnder? key v rest es).map fun es => t.put k (.table origin es)
    | some (.tables ts) =>
      (addUnder? key v rest (ts.getLastD [])).map fun es => t.put k (.tables (ts.dropLast ++ [es]))
    | _ => none

end Table

end RollCall.Toml
