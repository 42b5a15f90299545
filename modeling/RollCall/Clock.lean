import RollCall.Time.Timestamp

set_option autoImplicit false

/-!
The time of a run. Waiting is counted in milliseconds from the start of the run and acting takes no
time; the wall clock, which steps and expiries are stamped with, is a sequence of readings.

Within one millisecond the caller and the others take turns: whoever waits for a message acts after
the others have acted, and whoever waits for an instant acts before them. A moment is a millisecond
with the number of turns that the others have had in it.
-/
namespace RollCall

structure Moment where
  ms : Nat
  turn : Nat
deriving DecidableEq, Repr

namespace Moment

/-- The first moment of a millisecond. -/
def start (ms : Nat) : Moment := ⟨ms, 0⟩

def before (a b : Moment) : Bool := a.ms < b.ms || (a.ms == b.ms && a.turn < b.turn)

/-- The later of two moments. -/
def latest (a b : Moment) : Moment := if a.before b then b else a

theorem before_iff {a b : Moment} : a.before b ↔ a.ms < b.ms ∨ a.ms = b.ms ∧ a.turn < b.turn := by
  simp [before]

theorem before_start_iff {a : Moment} {ms : Nat} : a.before (start ms) ↔ a.ms < ms := by
  simp [before_iff, start]

theorem not_before_self (a : Moment) : a.before a = false := by
  simp [before]

end Moment

structure Clock where
  /-- Milliseconds since the run began. -/
  now : Nat
  /-- How many turns the others have had in this millisecond. -/
  turn : Nat
  /-- What the wall clock shows, reading by reading. -/
  readings : Nat → Timestamp
  /-- How many readings have been taken. -/
  taken : Nat

namespace Clock

def start (readings : Nat → Timestamp) : Clock := ⟨0, 0, readings, 0⟩

def moment (c : Clock) : Moment := ⟨c.now, c.turn⟩

def reading (c : Clock) : Timestamp := c.readings c.taken

def tick (c : Clock) : Clock := { c with taken := c.taken + 1 }

/-- Waits for an instant, unless it has come. -/
def waitUntil (c : Clock) (t : Nat) : Clock :=
  if t ≤ c.now then c else { c with now := t, turn := 0 }

def wait (c : Clock) (ms : Nat) : Clock := c.waitUntil (c.now + ms)

/-- Waits for what others do at a moment, unless they have done it. -/
def waitFor (c : Clock) (m : Moment) : Clock :=
  if m.before c.moment then c else { c with now := m.ms, turn := m.turn + 1 }

@[simp] theorem now_tick (c : Clock) : c.tick.now = c.now := rfl

@[simp] theorem now_waitUntil (c : Clock) (t : Nat) : (c.waitUntil t).now = max c.now t := by
  unfold waitUntil
  split
  · omega
  · show t = _
    omega

@[simp] theorem now_wait (c : Clock) (ms : Nat) : (c.wait ms).now = c.now + ms := by
  simp only [wait, now_waitUntil]
  omega

@[simp] theorem wait_zero (c : Clock) : c.wait 0 = c := by
  simp [wait, waitUntil]

theorem wait_wait (c : Clock) (m n : Nat) : (c.wait m).wait n = c.wait (m + n) := by
  simp only [wait, waitUntil]
  split <;> split <;> split <;> grind

@[simp] theorem now_waitFor (c : Clock) (m : Moment) : (c.waitFor m).now = max c.now m.ms := by
  unfold waitFor
  split
  · rename_i h
    rw [Moment.before_iff] at h
    simp only [moment] at h
    omega
  · rename_i h
    rw [Moment.before_iff] at h
    show m.ms = _
    simp only [moment] at h
    omega

@[simp] theorem readings_waitUntil (c : Clock) (t : Nat) :
    (c.waitUntil t).readings = c.readings := by
  unfold waitUntil
  split <;> rfl

@[simp] theorem readings_wait (c : Clock) (ms : Nat) : (c.wait ms).readings = c.readings :=
  readings_waitUntil c _

@[simp] theorem readings_waitFor (c : Clock) (m : Moment) : (c.waitFor m).readings = c.readings := by
  unfold waitFor
  split <;> rfl

end Clock

end RollCall
