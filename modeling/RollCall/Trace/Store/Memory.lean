import RollCall.Trace.Basic
import RollCall.Trace.Store.Sweep
import RollCall.Trace.Store.Table

set_option autoImplicit false

/-!
The store of a single process: traces with the instant at which each expires. Expired traces are
dropped when they are asked for and by sweeps.
-/
namespace RollCall

structure MemoryEntry where
  trace : RequestTrace
  expiresAt : Timestamp
deriving DecidableEq, Repr

/-- A trace is served while its expiry lies in the future. -/
def MemoryEntry.isLive (e : MemoryEntry) (now : Timestamp) : Bool := now < e.expiresAt

structure MemoryStore where
  entries : Table RequestId MemoryEntry
  schedule : SweepSchedule

namespace MemoryStore

def empty (interval : Span) (now : Timestamp) : MemoryStore :=
  ⟨Table.empty, ⟨interval, now⟩⟩

def size (s : MemoryStore) : Nat := s.entries.size

def isEmpty (s : MemoryStore) : Bool := s.size == 0

/-- The last second of the clock that expiries are measured by. -/
def lastSecond : Int := 9223372036854775807

def load (s : MemoryStore) (id : RequestId) (now : Timestamp) : Option RequestTrace × MemoryStore :=
  match s.entries.get? id with
  | none => (none, s)
  | some e =>
    if e.isLive now then (some e.trace, s) else (none, { s with entries := s.entries.erase id })

/-- Drops what has expired and counts it. -/
def purge (s : MemoryStore) (now : Timestamp) : Nat × MemoryStore :=
  let kept := s.entries.keep fun e => e.isLive now
  (s.entries.size - kept.size, { s with entries := kept })

def sweepIfDue (s : MemoryStore) (now : Timestamp) : MemoryStore :=
  if s.schedule.isDue now then ({ s with schedule := s.schedule.claim now }.purge now).2 else s

def save (s : MemoryStore) (trace : RequestTrace) (ttl : Span) (now : Timestamp) :
    Except RetentionFault MemoryStore :=
  let expiresAt := now.add ttl
  if lastSecond < expiresAt.seconds then .error .pastEndOfClock
  else
    .ok ({ s with entries := s.entries.put trace.requestId ⟨trace, expiresAt⟩ }.sweepIfDue now)

end MemoryStore

end RollCall
