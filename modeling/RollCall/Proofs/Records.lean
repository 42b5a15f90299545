import RollCall.Proofs.Dated
import RollCall.Proofs.Instants
import RollCall.Proofs.JsonText
import RollCall.Proofs.Keeping

set_option autoImplicit false

/-!
The text of a stored record reads back as the record, whatever its labels hold and whichever of its
steps are closed, so that a trace that was saved is loaded as it was.
-/
namespace RollCall

namespace Wire

variable {α : Type} {P : α → Prop} {encode : α → Json} {decode : Json → Option α}

/-- A value that may be missing reads back if it is never written as null. -/
theorem nullable_orNull {o : Option α} (solid : ∀ a, encode a ≠ .null)
    (back : ∀ a ∈ o, decode (encode a) = some a) : nullable decode (orNull encode o) = some o := by
  cases o with
  | none => rfl
  | some a =>
    show nullable decode (encode a) = _
    unfold nullable
    split
    · rename_i null
      exact (solid a null).elim
    · rw [back a rfl]
      rfl

theorem each?_map {β : Type} {encode : α → β} {decode : β → Option α} {as : List α}
    (back : ∀ a ∈ as, decode (encode a) = some a) :
    each? decode (as.map encode) = some as := by
  induction as with
  | nil => rfl
  | cons a as ih =>
    rw [List.map_cons, each?, back a List.mem_cons_self,
      ih fun b member => back b (List.mem_cons_of_mem a member)]

theorem of_required (each : ∀ v a, decode v = some a → P a) {slot : Slot} {a : α}
    (read : required decode slot = some a) : P a := by
  unfold required at read
  split at read
  · exact each _ a read
  · cases read

theorem of_optional (each : ∀ v a, decode v = some a → P a) {slot : Slot} {o : Option α}
    (read : optional decode slot = some o) : ∀ a ∈ o, P a := by
  intro a held
  cases held
  unfold optional nullable at read
  split at read
  · split at read
    · cases read
    · obtain ⟨b, first, same⟩ := Option.map_eq_some_iff.1 read
      cases same
      exact each _ a first
  · cases read
  · cases read

theorem of_each? (each : ∀ v a, decode v = some a → P a) {vs : List Json} {as : List α}
    (read : each? decode vs = some as) : ∀ a ∈ as, P a := by
  induction vs generalizing as with
  | nil =>
    cases read
    exact fun b member => (List.not_mem_nil member).elim
  | cons v vs ih =>
    unfold each? at read
    split at read
    · rename_i b rest first later
      cases read
      intro c member
      rcases List.mem_cons.1 member with rfl | member
      · exact each v c first
      · exact ih later c member
    · cases read

theorem of_list? (each : ∀ v a, decode v = some a → P a) (v : Json) (as : List α)
    (read : list? decode v = some as) : ∀ a ∈ as, P a := by
  unfold list? at read
  split at read
  · exact of_each? each read
  · cases read

end Wire

theorem RequestId.ofJson?_toJson (id : RequestId) : ofJson? id.toJson = some id := rfl

theorem StepId.ofJson?_toJson (id : StepId) : ofJson? id.toJson = some id := by
  rw [ofJson?, toJson, Wire.string?, Option.bind_some, parse?_text]

theorem Timestamp.ofJson?_toJson {t : Timestamp} (known : t.inCalendar = true) :
    ofJson? t.toJson = some t := by
  rw [ofJson?, toJson, Wire.string?, Option.bind_some, parse?_text known]

theorem Timestamp.inCalendar_of_ofJson? {v : Json} {t : Timestamp} (read : ofJson? v = some t) :
    t.inCalendar = true := by
  obtain ⟨s, -, read⟩ := Option.bind_eq_some_iff.1 read
  exact inCalendar_of_parse? read

structure Record.Dated (r : Record) : Prop where
  expiry : r.expiresAt.inCalendar = true
  steps : r.trace.Dated

theorem Step.ofJson?_toJson {s : Step} (dated : s.Dated) : ofJson? s.toJson = some s := by
  have finish : Wire.nullable Timestamp.ofJson? (Wire.orNull Timestamp.toJson s.endTime) =
      some s.endTime :=
    Wire.nullable_orNull (fun t null => by cases null)
      fun t ends => Timestamp.ofJson?_toJson (dated.finish t ends)
  have success : Wire.nullable Wire.bool? (Wire.orNull Json.bool s.success) = some s.success :=
    Wire.nullable_orNull (fun b null => by cases null) fun b _ => rfl
  simp [ofJson?, toJson, Wire.slots?, Wire.occurrences, Json.lookup, List.lookup_cons,
    Wire.required, Wire.optional, Wire.string?, StepId.ofJson?_toJson,
    Timestamp.ofJson?_toJson dated.start, finish, success]

theorem RequestTrace.ofJson?_toJson {t : RequestTrace} (dated : t.Dated) :
    ofJson? t.toJson = some t := by
  have steps : Wire.each? Step.ofJson? (t.steps.map Step.toJson) = some t.steps :=
    Wire.each?_map fun s member => Step.ofJson?_toJson (dated s member)
  simp [ofJson?, toJson, Wire.slots?, Wire.occurrences, Json.lookup, List.lookup_cons,
    Wire.required, Wire.list?, RequestId.ofJson?_toJson, steps]

theorem Record.ofJson?_toJson {r : Record} (dated : r.Dated) : ofJson? r.toJson = some r := by
  simp [ofJson?, toJson, Wire.slots?, Wire.occurrences, Json.lookup, List.lookup_cons,
    Wire.required, Timestamp.ofJson?_toJson dated.expiry, RequestTrace.ofJson?_toJson dated.steps]

theorem Step.dated_of_ofJson? {v : Json} {s : Step} (read : ofJson? v = some s) : s.Dated := by
  unfold ofJson? at read
  split at read
  · simp only [Option.bind_eq_bind, Option.bind_eq_some_iff, Option.pure_def,
      Option.some.injEq] at read
    obtain ⟨id, -, participant, -, start, startRead, finish, finishRead, success, -, rfl⟩ := read
    exact ⟨Wire.of_required (fun _ _ => Timestamp.inCalendar_of_ofJson?) startRead,
      Wire.of_optional (fun _ _ => Timestamp.inCalendar_of_ofJson?) finishRead⟩
  · cases read

theorem RequestTrace.dated_of_ofJson? {v : Json} {t : RequestTrace} (read : ofJson? v = some t) :
    t.Dated := by
  unfold ofJson? at read
  split at read
  · simp only [Option.bind_eq_bind, Option.bind_eq_some_iff, Option.pure_def,
      Option.some.injEq] at read
    obtain ⟨id, -, steps, stepsRead, rfl⟩ := read
    exact Wire.of_required (P := fun steps => ∀ s ∈ steps, Step.Dated s)
      (Wire.of_list? fun _ _ => Step.dated_of_ofJson?) stepsRead
  · cases read

theorem Record.dated_of_ofJson? {v : Json} {r : Record} (read : ofJson? v = some r) : r.Dated := by
  unfold ofJson? at read
  split at read
  · simp only [Option.bind_eq_bind, Option.bind_eq_some_iff, Option.pure_def,
      Option.some.injEq] at read
    obtain ⟨expiresAt, expiryRead, trace, traceRead, rfl⟩ := read
    exact ⟨Wire.of_required (fun _ _ => Timestamp.inCalendar_of_ofJson?) expiryRead,
      Wire.of_required (fun _ _ => RequestTrace.dated_of_ofJson?) traceRead⟩
  · cases read

theorem Step.plain (d : Nat) (s : Step) : Json.Plain (d + 1) s.toJson := by
  refine .object fun f member => ?_
  simp only [List.mem_cons, List.not_mem_nil, or_false] at member
  rcases member with rfl | rfl | rfl | rfl | rfl
  · cases s.endTime with
    | none => exact .null d
    | some t => exact .string d _
  · exact .string d _
  · exact .string d _
  · exact .string d _
  · cases s.success with
    | none => exact .null d
    | some b => exact .bool d b

theorem RequestTrace.plain (d : Nat) (t : RequestTrace) : Json.Plain (d + 3) t.toJson := by
  refine .object fun f member => ?_
  simp only [List.mem_cons, List.not_mem_nil, or_false] at member
  rcases member with rfl | rfl
  · exact .string _ _
  · refine .array fun v member => ?_
    obtain ⟨s, -, rfl⟩ := List.mem_map.1 member
    exact s.plain d

theorem Record.plain (d : Nat) (r : Record) : Json.Plain (d + 4) r.toJson := by
  refine .object fun f member => ?_
  simp only [List.mem_cons, List.not_mem_nil, or_false] at member
  rcases member with rfl | rfl
  · exact .string _ _
  · exact r.trace.plain d

/-- A record is read from its text exactly if the calendar has all its instants. -/
theorem Record.decode?_encode_iff {r : Record} : decode? r.encode = some r ↔ r.Dated := by
  have parsed : Json.parse? r.encode = some r.toJson := Json.parse?_render (r.plain 123)
  rw [decode?, parsed, Option.bind_some]
  exact ⟨dated_of_ofJson?, ofJson?_toJson⟩

/-- The bytes of a text are read as the text. -/
theorem Text.fromUTF8?_toUTF8 (s : String) : String.fromUTF8? s.toUTF8 = some s :=
  dif_pos s.isValidUTF8

namespace RecordCodec

theorem decode?_json (bytes : ByteArray) :
    json.decode? bytes = (String.fromUTF8? bytes).bind Record.decode? := rfl

theorem encode_json (r : Record) : json.encode r = r.encode.toUTF8 := by
  rw [json]

theorem decode?_encode_json (r : Record) : json.decode? (json.encode r) = Record.decode? r.encode := by
  rw [decode?_json, encode_json, Text.fromUTF8?_toUTF8, Option.bind_some]

theorem decode?_encode_json_iff {r : Record} : json.decode? (json.encode r) = some r ↔ r.Dated := by
  rw [decode?_encode_json, Record.decode?_encode_iff]

end RecordCodec

theorem RequestId.key_injective : Function.Injective key := by
  intro id other same
  have texts := String.toByteArray_inj.1 same
  cases id
  cases other
  exact congrArg RequestId.mk texts

namespace DurableStore

variable {codec : RecordCodec} {s : DurableStore codec} {id : RequestId} {trace : RequestTrace}
  {ttl : Span} {now : Timestamp}

def Accepts (ttl : Span) (now : Timestamp) : Prop :=
  ttl.totalNanos ≤ longestRetention ∧ (now.add ttl).seconds < Timestamp.endOfCalendar

instance (ttl : Span) (now : Timestamp) : Decidable (Accepts ttl now) :=
  inferInstanceAs (Decidable (_ ∧ _))

theorem Accepts.add? (accepts : Accepts ttl now) : now.add? ttl = some (now.add ttl) :=
  if_pos accepts.2

theorem save_of_accepts (accepts : Accepts ttl now) : s.save trace ttl now =
    .ok ((s.putBytes trace.requestId.key (codec.encode ⟨now.add ttl, trace⟩)).sweepIfDue now) := by
  rw [save, if_neg (Nat.not_lt.2 accepts.1), accepts.add?]

/-- What is saved is a record of the calendar. -/
theorem Accepts.dated (accepts : Accepts ttl now) (known : now.inCalendar = true)
    (steps : trace.Dated) : Record.Dated ⟨now.add ttl, trace⟩ :=
  ⟨Timestamp.inCalendar_of_add? known accepts.add?, steps⟩

theorem get?_sweepIfDue_of_isKept {key bytes : ByteArray} (held : s.records.get? key = some bytes)
    (kept : isKept codec now bytes = true) : (s.sweepIfDue now).records.get? key = some bytes := by
  unfold sweepIfDue
  split
  · exact Table.getEntry_filter (isKept codec now) kept held
  · exact held

theorem load_of_isLive {bytes : ByteArray} {r : Record} (held : s.records.get? id.key = some bytes)
    (read : codec.decode? bytes = some r) (live : r.isLive now = true) :
    (s.load id now).1 = .ok (some r.trace) := by
  simp only [load, held, read, live, ↓reduceIte]

end DurableStore

/--
Every record whose instants the calendar has, and no other, is read from its own text. A trace that
is saved is loaded as it was until it expires, also by a store that is opened anew on the records.
-/
theorem saved_records_read_back :
    (∀ r : Record, Record.decode? r.encode = some r ↔ r.Dated) ∧
    ∀ (s : DurableStore .json) (trace : RequestTrace) (ttl : Span) (now later : Timestamp),
      trace.Dated → now.inCalendar = true → DurableStore.Accepts ttl now →
      now ≤ later → later < now.add ttl →
      ∃ kept, s.save trace ttl now = .ok kept ∧
        (kept.load trace.requestId later).1 = .ok (some trace) ∧
        ∀ interval opened, ((kept.reopen interval opened).load trace.requestId later).1 =
          .ok (some trace) := by
  refine ⟨fun r => Record.decode?_encode_iff, ?_⟩
  intro s trace ttl now later dated known accepts onward early
  have read := RecordCodec.decode?_encode_json_iff.2 (accepts.dated known dated)
  have live : Record.isLive ⟨now.add ttl, trace⟩ later = true := decide_eq_true early
  have kept : DurableStore.isKept .json now (RecordCodec.json.encode ⟨now.add ttl, trace⟩) =
      true := by
    rw [DurableStore.isKept, read]
    exact decide_eq_true (Timestamp.lt_of_le_of_lt onward early)
  have held : (s.putBytes trace.requestId.key
      (RecordCodec.json.encode ⟨now.add ttl, trace⟩)).records.get? trace.requestId.key =
        some (RecordCodec.json.encode ⟨now.add ttl, trace⟩) := by
    rw [DurableStore.putBytes, Table.get?_put, if_pos rfl]
  have stays := DurableStore.get?_sweepIfDue_of_isKept held kept
  refine ⟨_, DurableStore.save_of_accepts accepts, DurableStore.load_of_isLive stays read live, ?_⟩
  intro interval opened
  have same : (((s.putBytes trace.requestId.key
      (RecordCodec.json.encode ⟨now.add ttl, trace⟩)).sweepIfDue now).reopen
        interval opened).records.get? trace.requestId.key = _ := stays
  exact DurableStore.load_of_isLive same read live

/-- A record with marks, controls and letters of all kinds; one step ends in a leap second. -/
def Record.rehearsal : Record :=
  ⟨⟨1483228860, 0⟩, ⟨⟨"say \"roll\\call\"\n\u0001"⟩,
    [⟨⟨0xfedcba9876543210fedcba9876543210⟩, "Zoë 点呼", ⟨-1, 1000⟩, some ⟨1483228799, 1999999999⟩,
      none⟩,
     ⟨⟨1⟩, "", ⟨1483228799, 5⟩, none, some false⟩]⟩⟩

theorem dated_rehearsal : Record.rehearsal.Dated := by
  refine ⟨by decide, fun s member => ?_⟩
  rcases List.mem_pair.1 member with rfl | rfl
  · exact ⟨by decide, fun t ends => by cases ends; decide⟩
  · exact ⟨by decide, fun t ends => by cases ends⟩

theorem saved_records_read_back_rehearsal :
    Record.decode? Record.rehearsal.encode = some Record.rehearsal ∧
    ∃ kept, (DurableStore.empty .json (Span.ofSecs 60) ⟨0, 0⟩).save Record.rehearsal.trace
        (Span.ofSecs 60) ⟨1483228800, 0⟩ = .ok kept ∧
      (kept.load Record.rehearsal.trace.requestId ⟨1483228859, 999999999⟩).1 =
        .ok (some Record.rehearsal.trace) ∧
      ∀ interval opened, ((kept.reopen interval opened).load Record.rehearsal.trace.requestId
        ⟨1483228859, 999999999⟩).1 = .ok (some Record.rehearsal.trace) :=
  ⟨(saved_records_read_back.1 _).2 dated_rehearsal,
    saved_records_read_back.2 _ _ _ _ _ dated_rehearsal.steps (by decide) (by decide) (by decide)
      (by decide)⟩

end RollCall
