import RollCall.Text.Blank
import RollCall.Time.Calendar
import RollCall.Time.Span

set_option autoImplicit false

/-!
Instants of universal time, to the nanosecond, with their RFC 3339 text. A leap second is a second
59 with a thousand million nanoseconds or more.
-/
namespace RollCall

/-- Seconds since 1970 and the nanoseconds after them. -/
structure Timestamp where
  seconds : Int
  nanos : Nat
deriving DecidableEq, Repr

namespace Timestamp

def atMost (a b : Timestamp) : Bool :=
  a.seconds < b.seconds || (a.seconds == b.seconds && a.nanos ≤ b.nanos)

instance : LE Timestamp := ⟨fun a b => a.atMost b = true⟩

instance : LT Timestamp := ⟨fun a b => b.atMost a = false⟩

instance (a b : Timestamp) : Decidable (a ≤ b) := inferInstanceAs (Decidable (_ = true))

instance (a b : Timestamp) : Decidable (a < b) := inferInstanceAs (Decidable (_ = false))

theorem le_iff {a b : Timestamp} :
    a ≤ b ↔ a.seconds < b.seconds ∨ (a.seconds = b.seconds ∧ a.nanos ≤ b.nanos) := by
  show a.atMost b = true ↔ _
  simp [atMost]

theorem lt_iff_not_le {a b : Timestamp} : a < b ↔ ¬ b ≤ a := by
  show b.atMost a = false ↔ ¬ b.atMost a = true
  simp

theorem lt_iff {a b : Timestamp} :
    a < b ↔ a.seconds < b.seconds ∨ (a.seconds = b.seconds ∧ a.nanos < b.nanos) := by
  rw [lt_iff_not_le, le_iff]
  omega

theorem le_refl (t : Timestamp) : t ≤ t := le_iff.2 (Or.inr ⟨rfl, Nat.le_refl _⟩)

theorem le_trans {a b c : Timestamp} (first : a ≤ b) (second : b ≤ c) : a ≤ c := by
  rw [le_iff] at *
  omega

theorem lt_of_le_of_lt {a b c : Timestamp} (first : a ≤ b) (second : b < c) : a < c := by
  rw [le_iff] at first
  rw [lt_iff] at second ⊢
  omega

/-- The later of two instants, the first when neither is. -/
def latest (a b : Timestamp) : Timestamp := if b ≤ a then a else b

theorem le_latest (a b : Timestamp) : b ≤ latest a b := by
  unfold latest
  split
  · assumption
  · exact le_refl b

def secondOfDay (t : Timestamp) : Int := t.seconds.emod 86400

/--
The nanoseconds from one instant to another. A leap second that lies before the later of the two
times of day counts as a second of its own.
-/
def nanosSince (t start : Timestamp) : Int :=
  let leap : Int :=
    if start.secondOfDay < t.secondOfDay ∧ 1000000000 ≤ start.nanos then 1
    else if t.secondOfDay < start.secondOfDay ∧ 1000000000 ≤ t.nanos then -1
    else 0
  (t.seconds - start.seconds + leap) * 1000000000 + ((t.nanos : Int) - start.nanos)

/-- The length of time from one instant to another that is not earlier. -/
def since? (t start : Timestamp) : Option Span :=
  let d := t.nanosSince start
  if 0 ≤ d then Span.ofNanos? d.toNat else none

/-- The first second of the calendar. -/
def startOfCalendar : Int := (Calendar.Date.toDays ⟨Calendar.firstYear, 1, 1⟩) * 86400

/-- The first second that is past the calendar. -/
def endOfCalendar : Int := (Calendar.Date.toDays ⟨Calendar.lastYear + 1, 1, 1⟩) * 86400

/-- Whether the calendar has an instant; leap seconds end a minute. -/
def inCalendar (t : Timestamp) : Bool :=
  startOfCalendar ≤ t.seconds && t.seconds < endOfCalendar &&
    (t.nanos < 1000000000 || (t.nanos < 2000000000 && t.secondOfDay % 60 == 59))

/-- The instant a length of time later, without a check of the range. -/
def add (t : Timestamp) (d : Span) : Timestamp :=
  if 1000000000 ≤ t.nanos then
    if t.nanos + d.totalNanos < 2000000000 then ⟨t.seconds, t.nanos + d.totalNanos⟩
    else
      let n := t.nanos - 1000000000 + d.totalNanos
      ⟨t.seconds + (n / 1000000000 : Nat), n % 1000000000⟩
  else
    let n := t.nanos + d.totalNanos
    ⟨t.seconds + (n / 1000000000 : Nat), n % 1000000000⟩

/-- The instant a length of time later, if the calendar has it. -/
def add? (t : Timestamp) (d : Span) : Option Timestamp :=
  if (t.add d).seconds < endOfCalendar then some (t.add d) else none

/-- A number with zeros in front of it up to a width. -/
def padded (width n : Nat) : List Char :=
  let ds := Nat.toDigits 10 n
  List.replicate (width - ds.length) '0' ++ ds

/-- Four digits, or a sign and at least four digits for a year outside of them. -/
def yearText (year : Int) : List Char :=
  if 0 ≤ year ∧ year ≤ 9999 then padded 4 year.toNat
  else (if year < 0 then '-' else '+') :: padded 4 year.natAbs

/-- The fewest of 0, 3, 6 and 9 digits that lose nothing. -/
def fractionText (nanos : Nat) : List Char :=
  if nanos = 0 then []
  else if nanos % 1000000 = 0 then '.' :: padded 3 (nanos / 1000000)
  else if nanos % 1000 = 0 then '.' :: padded 6 (nanos / 1000)
  else '.' :: padded 9 nanos

def print (t : Timestamp) : List Char :=
  let date := Calendar.Date.ofDays (t.seconds.fdiv 86400)
  let second := t.secondOfDay.toNat
  let leap := 1000000000 ≤ t.nanos
  yearText date.year ++ '-' :: padded 2 date.month ++ '-' :: padded 2 date.day ++
    'T' :: padded 2 (second / 3600) ++ ':' :: padded 2 (second / 60 % 60) ++
    ':' :: padded 2 (second % 60 + (if leap then 1 else 0)) ++
    fractionText (if leap then t.nanos - 1000000000 else t.nanos) ++ ['Z']

def text (t : Timestamp) : String := String.ofList t.print

def skipSpace (cs : List Char) : List Char := cs.dropWhile Text.isSpace

def digitsValue (ds : List Char) : Nat := ds.foldl (fun n c => n * 10 + (c.toNat - '0'.toNat)) 0

/-- A number of one digit up to a width, with the rest. -/
def number? (width : Nat) (cs : List Char) : Option (Nat × List Char) :=
  let ds := (cs.take width).takeWhile Char.isDigit
  if ds.isEmpty then none else some (digitsValue ds, cs.drop ds.length)

/-- A year: any number of digits after a sign, up to four without one. -/
def year? (cs : List Char) : Option (Int × List Char) :=
  match cs with
  | '-' :: r => (number? r.length r).map fun p => (-(p.1 : Int), p.2)
  | '+' :: r => (number? r.length r).map fun p => ((p.1 : Int), p.2)
  | r => (number? 4 r).map fun p => ((p.1 : Int), p.2)

/-- One given character, spaces being skipped before it. -/
def mark? (c : Char) (cs : List Char) : Option (List Char) :=
  match skipSpace cs with
  | d :: r => if d = c then some r else none
  | [] => none

/-- What stands between the day and the time. -/
def timeMark? : List Char → Option (List Char)
  | 'T' :: r | 't' :: r | ' ' :: r => some r
  | _ => none

/-- A number, spaces being skipped before it. -/
def spacedNumber? (width : Nat) (cs : List Char) : Option (Nat × List Char) :=
  number? width (skipSpace cs)

/-- The digits after a point: nine of them count. -/
def fraction? (cs : List Char) : Option (Nat × List Char) :=
  match cs with
  | '.' :: r =>
    let ds := (r.take 9).takeWhile Char.isDigit
    if ds.isEmpty then none
    else some (digitsValue ds * tenTo (9 - ds.length), (r.drop ds.length).dropWhile Char.isDigit)
  | r => some (0, r)

/-- The distance from universal time in seconds: `Z`, `UTC`, or hours and minutes after a sign. -/
def zone? (cs : List Char) : Option (Int × List Char) :=
  let signed (negative : Bool) (r : List Char) : Option (Int × List Char) :=
    match r with
    | a :: b :: r =>
      match r.dropWhile (fun c => c == ':' || Text.isSpace c) with
      | c :: d :: r =>
        if [a, b, c, d].all Char.isDigit && c < '6' then
          let s : Int := (digitsValue [a, b] * 3600 + digitsValue [c, d] * 60 : Nat)
          if s < 86400 then some (if negative then -s else s, r) else none
        else none
      | _ => none
    | _ => none
  match cs with
  | 'Z' :: r | 'z' :: r => some (0, r)
  | '+' :: r => signed false r
  | '-' :: r => signed true r
  | '−' :: r => signed true r
  | a :: b :: c :: r => if [a, b, c].map Char.toUpper = ['U', 'T', 'C'] then some (0, r) else none
  | _ => none

def parse? (s : String) : Option Timestamp := do
  let (year, cs) ← year? (skipSpace s.toList)
  let cs ← mark? '-' cs
  let (month, cs) ← spacedNumber? 2 cs
  let cs ← mark? '-' cs
  let (day, cs) ← spacedNumber? 2 cs
  let cs ← timeMark? cs
  let (hour, cs) ← spacedNumber? 2 cs
  let cs ← mark? ':' cs
  let (minute, cs) ← spacedNumber? 2 cs
  let cs ← mark? ':' cs
  let (second, cs) ← spacedNumber? 2 cs
  let (nanos, cs) ← fraction? cs
  let (zone, cs) ← zone? (skipSpace cs)
  let date : Calendar.Date := ⟨year, month, day⟩
  if !(skipSpace cs).isEmpty || !date.isValid || 23 < hour || 59 < minute || 60 < second then none
  else
    let leap := second = 60
    let ofDay : Int := (hour * 3600 + minute * 60 + (if leap then 59 else second) : Nat)
    Option.guard inCalendar
      ⟨date.toDays * 86400 + ofDay - zone, if leap then nanos + 1000000000 else nanos⟩

end Timestamp

end RollCall
