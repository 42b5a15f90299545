import RollCall.Time.Timestamp

set_option autoImplicit false

/-!
How often a write also sweeps out expired records: at most once per interval.
-/
namespace RollCall

structure SweepSchedule where
  interval : Span
  lastSweep : Timestamp
deriving DecidableEq, Repr

namespace SweepSchedule

/-- Whether a sweep is due; time that runs backwards counts as none. -/
def isDue (s : SweepSchedule) (now : Timestamp) : Bool :=
  (s.interval.totalNanos : Int) ≤ max 0 (now.nanosSince s.lastSweep)

def claim (s : SweepSchedule) (now : Timestamp) : SweepSchedule := { s with lastSweep := now }

/-- The interval of a store that is given none. -/
def standardInterval : Span := Span.ofSecs 60

end SweepSchedule

/-- Why a store could not keep a trace for the time it was asked to. -/
inductive RetentionFault where
  /-- The time is longer than the store can express. -/
  | outOfRange
  /-- The instant of expiry lies past the end of the clock. -/
  | pastEndOfClock
deriving DecidableEq, Repr

def RetentionFault.message : RetentionFault → String
  | .outOfRange => "TTL out of range: Source duration value is out of range for the target type"
  | .pastEndOfClock => "expiry past the end of the clock"

end RollCall
