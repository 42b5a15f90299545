import RollCall.Proofs.Expiry

set_option autoImplicit false

/-!
What is due to a store decides what its operations answer, whichever kind of store it is.
-/
namespace RollCall

variable {due : RequestId → Option Record} {now : Timestamp}

/-- Why a trace cannot be kept for so long from an instant on, if it cannot. -/
def MemoryStore.refusal? (ttl : Span) (now : Timestamp) : Option RetentionFault :=
  if accepts ttl now then none else some .pastEndOfClock

namespace DurableStore

def refusal? (ttl : Span) (now : Timestamp) : Option RetentionFault :=
  if longestRetention < ttl.totalNanos then some .outOfRange
  else if (now.add? ttl).isNone then some .pastEndOfClock
  else none

theorem refusal?_eq_none_iff {ttl : Span} : refusal? ttl now = none ↔ Accepts ttl now := by
  unfold refusal? Accepts Timestamp.add?
  split
  · rename_i long
    simp [Nat.not_le.2 long]
  · rename_i fits
    by_cases early : (now.add ttl).seconds < Timestamp.endOfCalendar <;>
      simp [early, Nat.not_lt.1 fits]

theorem save_of_refusal? {codec : RecordCodec} {ttl : Span} {fault : RetentionFault}
    (refused : refusal? ttl now = some fault) (s : DurableStore codec) (trace : RequestTrace) :
    s.save trace ttl now = .error fault := by
  unfold refusal? at refused
  unfold save
  split at refused
  · rename_i long
    rw [if_pos long]
    cases refused
    rfl
  · rename_i fits
    rw [if_neg fits]
    split at refused
    · rename_i late
      rw [Option.isNone_iff_eq_none.1 late]
      cases refused
      rfl
    · cases refused

end DurableStore

namespace Backend

def refusal? : Backend → Span → Timestamp → Option RetentionFault
  | .memory _ => MemoryStore.refusal?
  | .durable _ => DurableStore.refusal?

def Serves (due : RequestId → Option Record) (now : Timestamp) : Backend → Prop
  | .memory m => m.Serves due now
  | .durable d => d.Serves due now

theorem Serves.mono {b : Backend} {t : Timestamp} (serves : b.Serves due now) (onward : now ≤ t) :
    b.Serves due t := by
  cases b with
  | memory m => exact Table.Serves.mono serves onward
  | durable d => exact Table.Serves.mono serves onward

/-- A store in which nothing has been kept yet. -/
inductive New : Backend → Prop
  | memory (interval : Span) (opened : Timestamp) : New (.memory (MemoryStore.empty interval opened))
  | durable (interval : Span) (opened : Timestamp) :
    New (.durable (DurableStore.empty .json interval opened))

theorem New.serves {b : Backend} (fresh : b.New) (now : Timestamp) :
    b.Serves (fun _ => none) now := by
  cases fresh with
  | memory => exact Table.serves_empty
  | durable => exact Table.serves_empty

end Backend

namespace TraceStore

variable {s : TraceStore} {t : RequestTrace} {ttl : Span}

theorem load_spec (serves : s.backend.Serves due now) (id : RequestId) :
    (s.load id now).1 = .ok (((due id).filter (·.isLive now)).map Record.trace) ∧
      (s.load id now).2.backend.Serves due now ∧
      (s.load id now).2.backend.refusal? = s.backend.refusal? := by
  obtain ⟨backend, script⟩ := s
  cases backend with
  | memory m =>
    obtain ⟨found, still⟩ := MemoryStore.Serves.load serves id
    exact ⟨congrArg Except.ok found, still, rfl⟩
  | durable d =>
    obtain ⟨found, still⟩ := DurableStore.Serves.load serves id
    rcases equal : d.load id now with ⟨answer, kept⟩
    rw [equal] at found still
    cases found
    have loaded : TraceStore.load ⟨.durable d, script⟩ id now =
        (.ok (((due id).filter (·.isLive now)).map Record.trace), ⟨.durable kept, script⟩) := by
      simp only [TraceStore.load, equal]
    rw [loaded]
    exact ⟨rfl, still, rfl⟩

theorem fst_save (s : TraceStore) (t : RequestTrace) (ttl : Span) (now : Timestamp) :
    (s.save t ttl now).1 =
      match s.backend.refusal? ttl now with
      | none => .ok ()
      | some fault => .error (.notRetained fault) := by
  obtain ⟨backend, script⟩ := s
  cases backend with
  | memory m =>
    have saved := m.save_eq t ttl now
    simp only [TraceStore.save, Backend.refusal?, MemoryStore.refusal?]
    by_cases possible : MemoryStore.accepts ttl now = true
    · rw [saved, if_pos possible, if_pos possible]
    · rw [saved, if_neg possible, if_neg possible]
  | durable d =>
    simp only [TraceStore.save, Backend.refusal?]
    cases refused : DurableStore.refusal? ttl now with
    | none => rw [DurableStore.save_of_accepts (DurableStore.refusal?_eq_none_iff.1 refused)]
    | some fault => rw [DurableStore.save_of_refusal? refused]

theorem save_of_accepted (serves : s.backend.Serves due now) (known : now.inCalendar = true)
    (dated : t.Dated) (accepted : s.backend.refusal? ttl now = none) :
    (s.save t ttl now).1 = .ok () ∧
      (s.save t ttl now).2.backend.Serves
        (Function.update due t.requestId (some ⟨now.add ttl, t⟩)) now ∧
      (s.save t ttl now).2.backend.refusal? = s.backend.refusal? := by
  have written : Function.update due t.requestId (some ⟨now.add ttl, t⟩) =
      fun id => if t.requestId = id then some ⟨now.add ttl, t⟩ else due id := by
    funext id
    rw [Function.update_apply, if_congr eq_comm rfl rfl]
  rw [written]
  obtain ⟨backend, script⟩ := s
  cases backend with
  | memory m =>
    have possible : MemoryStore.accepts ttl now = true := by
      by_contra late
      exact Option.some_ne_none _ ((if_neg late).symm.trans accepted)
    have done {kept : MemoryStore} (saved : m.save t ttl now = .ok kept) :
        TraceStore.save ⟨.memory m, script⟩ t ttl now = (.ok (), ⟨.memory kept, script⟩) := by
      simp only [TraceStore.save, saved]
    rw [done ((m.save_eq t ttl now).trans (if_pos possible))]
    exact ⟨rfl, MemoryStore.Serves.sweepIfDue
      (Table.Serves.put serves Function.injective_id t.requestId rfl), rfl⟩
  | durable d =>
    have possible : DurableStore.Accepts ttl now := DurableStore.refusal?_eq_none_iff.1 accepted
    have read := RecordCodec.decode?_encode_json_iff.2 (possible.dated known dated)
    have done {kept : DurableStore .json} (saved : d.save t ttl now = .ok kept) :
        TraceStore.save ⟨.durable d, script⟩ t ttl now = (.ok (), ⟨.durable kept, script⟩) := by
      simp only [TraceStore.save, saved]
    rw [done (DurableStore.save_of_accepts possible)]
    exact ⟨rfl, DurableStore.Serves.sweepIfDue
      (Table.Serves.put serves RequestId.key_injective t.requestId read), rfl⟩

theorem save_of_refused {fault : RetentionFault} (refused : s.backend.refusal? ttl now = some fault)
    (t : RequestTrace) : s.save t ttl now = (.error (.notRetained fault), s) := by
  obtain ⟨backend, script⟩ := s
  cases backend with
  | memory m =>
    have impossible : ¬ MemoryStore.accepts ttl now = true := by
      intro early
      exact Option.some_ne_none _ (refused.symm.trans (if_pos early))
    have same : some .pastEndOfClock = some fault := (if_neg impossible).symm.trans refused
    cases same
    have saved := (m.save_eq t ttl now).trans (if_neg impossible)
    simp only [TraceStore.save, saved]
  | durable d =>
    have saved := DurableStore.save_of_refusal? refused d t
    simp only [TraceStore.save, saved]

end TraceStore

namespace Recorder

variable (r : Recorder) (id : RequestId) (j : Journal)

theorem brokenOff_load : (r.load id j).2.brokenOff = j.brokenOff := by
  have entered : (r.enter j).2.brokenOff = j.brokenOff := rfl
  unfold load
  rcases equal : r.enter j with ⟨_ | f, k⟩
  · rw [equal] at entered
    exact entered
  · rw [equal] at entered
    exact entered

/-- The program ends exactly at a save that is carried out and looks past the end of the clock. -/
theorem brokenOff_save_iff (t : RequestTrace) : (r.save t j).2.brokenOff = true ↔
    j.brokenOff = true ∨ (r.enter j).1 = .carriedOut ∧
      (r.enter j).2.store.backend.refusal? r.ttl (r.enter j).2.clock.reading =
        some .pastEndOfClock := by
  have entered : (r.enter j).2.brokenOff = j.brokenOff := rfl
  unfold save
  rcases equal : r.enter j with ⟨_ | f, k⟩
  · rw [equal] at entered
    dsimp only at entered ⊢
    rw [k.store.fst_save, entered, Bool.or_eq_true]
    rcases k.store.backend.refusal? r.ttl k.clock.reading with _ | _ | _ <;>
      simp [StoreFailure.breaksOff]
  · rw [equal] at entered
    dsimp only at entered ⊢
    simp [entered]

theorem brokenOff_draft (a : Recording) : (r.draft id a j).2.brokenOff = j.brokenOff := by
  cases a with
  | start participants =>
    dsimp only [draft]
    split
    · rfl
    · rw [snd_draftSteps, brokenOff_load, Journal.snd_openAll]
  | finished participant startTime success =>
    dsimp only [draft]
    split
    · rfl
    · rw [snd_draftSteps, brokenOff_load]
  | close closes =>
    rcases snd_draft_close r id closes j with same | ⟨n, read⟩
    · rw [same]
    · rw [read]
      exact brokenOff_load r id j

end Recorder

end RollCall
