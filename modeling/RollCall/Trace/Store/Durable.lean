import RollCall.Json.Parse
import RollCall.Json.Print
import RollCall.Trace.Store.Sweep
import RollCall.Trace.Store.Table
import RollCall.Wire.Trace

set_option autoImplicit false

/-!
The store that outlives its process: under the name of each request it keeps the bytes of a record.
Bytes that are no record cannot be loaded and are dropped by sweeps.
-/
namespace RollCall

def Record.isLive (r : Record) (now : Timestamp) : Bool := now < r.expiresAt

def Record.decode? (text : String) : Option Record := (Json.parse? text).bind Record.ofJson?

def Record.encode (r : Record) : String := r.toJson.render

-- Batteries has a second instance; trees compare their keys with the one of the core library.
instance bytesDecidableEq : DecidableEq ByteArray := ByteArray.instDecidableEq

/-- How records are written as bytes, and which bytes are read as records. -/
structure RecordCodec where
  encode : Record → ByteArray
  decode? : ByteArray → Option Record

/-- Records as JSON in UTF-8. -/
def RecordCodec.json : RecordCodec where
  encode r := r.encode.toUTF8
  decode? bytes := (String.fromUTF8? bytes).bind Record.decode?

def RequestId.key (id : RequestId) : ByteArray := id.text.toUTF8

structure DurableStore (codec : RecordCodec) where
  records : Table ByteArray ByteArray
  schedule : SweepSchedule

namespace DurableStore

variable {codec : RecordCodec}

def empty (codec : RecordCodec) (interval : Span) (now : Timestamp) : DurableStore codec :=
  ⟨Table.empty, ⟨interval, now⟩⟩

def size (s : DurableStore codec) : Nat := s.records.size

/-- Puts bytes under a key as they are. -/
def putBytes (s : DurableStore codec) (key bytes : ByteArray) : DurableStore codec :=
  { s with records := s.records.put key bytes }

/-- The same records in a store opened anew. -/
def reopen (s : DurableStore codec) (interval : Span) (now : Timestamp) : DurableStore codec :=
  ⟨s.records, ⟨interval, now⟩⟩

/-- The live trace under a name; bytes that cannot be read are an error and stay. -/
def load (s : DurableStore codec) (id : RequestId) (now : Timestamp) :
    Except Unit (Option RequestTrace) × DurableStore codec :=
  match s.records.get? id.key with
  | none => (.ok none, s)
  | some bytes =>
    match codec.decode? bytes with
    | none => (.error (), s)
    | some r =>
      if r.isLive now then (.ok (some r.trace), s)
      else (.ok none, { s with records := s.records.erase id.key })

/-- Whether a sweep leaves some bytes. -/
def isKept (codec : RecordCodec) (now : Timestamp) (bytes : ByteArray) : Bool :=
  match codec.decode? bytes with
  | some r => r.isLive now
  | none => false

/-- Drops what has expired or cannot be read and counts it. -/
def purge (s : DurableStore codec) (now : Timestamp) : Nat × DurableStore codec :=
  let kept := s.records.keep (isKept codec now)
  (s.records.size - kept.size, { s with records := kept })

def sweepIfDue (s : DurableStore codec) (now : Timestamp) : DurableStore codec :=
  if s.schedule.isDue now then ({ s with schedule := s.schedule.claim now }.purge now).2 else s

/-- The longest retention: as many milliseconds as 63 bits count. -/
def longestRetention : Nat := 9223372036854775807 * 1000000

def save (s : DurableStore codec) (trace : RequestTrace) (ttl : Span) (now : Timestamp) :
    Except RetentionFault (DurableStore codec) :=
  if longestRetention < ttl.totalNanos then .error .outOfRange
  else
    match now.add? ttl with
    | none => .error .pastEndOfClock
    | some expiresAt =>
      .ok ((s.putBytes trace.requestId.key (codec.encode ⟨expiresAt, trace⟩)).sweepIfDue now)

end DurableStore

end RollCall
