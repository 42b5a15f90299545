import RollCall.Broadcast.Event
import RollCall.Plan.Basic
import RollCall.Proofs.Fields
import RollCall.Proofs.Recipients
import RollCall.Proofs.Records
import RollCall.Settings.Basic

set_option autoImplicit false

/-!
The JSON form of every type that crosses the wire reads back as the value it was written from.
What is accepted beyond these forms differs from them in fields that are not read and in fields
that may be absent, and is brought to such a form by reading and writing it once.
-/
namespace RollCall

namespace Wire

/--
How a type is written and read, which keys are read for a value of it, and which fields may be
absent, with the values that stand for them.
-/
structure Form (α : Type) where
  encode : α → Json
  decode : Json → Option α
  known : α → List String
  defaults : List (String × Json)

namespace Form

variable {α : Type} {F : Form α} {Valid : α → Prop} {names : List String}

def rewrite (F : Form α) (v : Json) : Option Json := (F.decode v).map F.encode

/-- The form keeps every valid value, and whatever else is accepted comes to such a form. -/
structure Faithful (F : Form α) (Valid : α → Prop) : Prop where
  back : ∀ a, Valid a → F.decode (F.encode a) = some a
  apart : ∀ a b, Valid a → Valid b → F.encode a = F.encode b → a = b
  /-- Reading and writing once more changes nothing. -/
  settled : ∀ v w, F.rewrite v = some w → F.rewrite w = some w
  /-- Only the known fields count. -/
  dropped : ∀ fields a, F.decode (.object fields) = some a ↔
    F.decode (.object (among (F.known a) fields)) = some a
  /-- A field with a default may be absent. -/
  filled : ∀ d ∈ F.defaults, ∀ fields, Json.lookup d.1 fields = none →
    F.decode (.object (d :: fields)) = F.decode (.object fields)
  /-- What is written has known fields only, and those with defaults among them. -/
  written : ∀ a, ∃ fields, F.encode a = .object fields ∧
    (∀ f ∈ fields, f.1 ∈ F.known a) ∧ ∀ d ∈ F.defaults, d.1 ∈ fields.map Prod.fst

/-- What a form has to say of its fields, beside reading back what is valid and nothing else. -/
theorem faithful (back : ∀ a, Valid a → F.decode (F.encode a) = some a)
    (valid : ∀ v a, F.decode v = some a → Valid a)
    (dropped : ∀ fields a, F.decode (.object fields) = some a ↔
      F.decode (.object (among (F.known a) fields)) = some a)
    (filled : ∀ d ∈ F.defaults, ∀ fields, Json.lookup d.1 fields = none →
      F.decode (.object (d :: fields)) = F.decode (.object fields))
    (written : ∀ a, ∃ fields, F.encode a = .object fields ∧
      (∀ f ∈ fields, f.1 ∈ F.known a) ∧ ∀ d ∈ F.defaults, d.1 ∈ fields.map Prod.fst) :
    F.Faithful Valid := by
  refine ⟨back, ?_, ?_, dropped, filled, written⟩
  · intro a b first second same
    have read := back a first
    rw [same, back b second] at read
    exact (Option.some.inj read).symm
  · intro v w once
    obtain ⟨a, read, rfl⟩ := Option.map_eq_some_iff.1 once
    rw [rewrite, back a (valid v a read), Option.map_some]

/-- Fields of other names do not matter to what is read by slots. -/
theorem faithful_of_slots (back : ∀ a, Valid a → F.decode (F.encode a) = some a)
    (valid : ∀ v a, F.decode v = some a → Valid a) (known : ∀ a, F.known a = names)
    (reads : ∀ v w, slots? names v = slots? names w → F.decode v = F.decode w)
    (filled : ∀ d ∈ F.defaults, ∀ fields, Json.lookup d.1 fields = none →
      F.decode (.object (d :: fields)) = F.decode (.object fields))
    (written : ∀ a, ∃ fields, F.encode a = .object fields ∧
      (∀ f ∈ fields, f.1 ∈ F.known a) ∧ ∀ d ∈ F.defaults, d.1 ∈ fields.map Prod.fst) :
    F.Faithful Valid := by
  refine faithful back valid ?_ filled written
  intro fields a
  rw [known a, reads _ _ (slots?_among fun n member => member)]

/-- Nor do they matter to a choice that is read by its name and by the slots of that name. -/
theorem dropped_of_tag {tag : String} {read : String → Json → Option α}
    {names : String → List String} {name : α → String}
    (known : ∀ a, F.known a = tag :: names (name a))
    (reads : ∀ v, F.decode v = (tagged? tag v).bind fun p => read p.1 p.2)
    (named : ∀ s v a, read s v = some a → name a = s)
    (alike : ∀ s v w, slots? (names s) v = slots? (names s) w → read s v = read s w)
    (fields : List (String × Json)) (a : α) : F.decode (.object fields) = some a ↔
      F.decode (.object (among (F.known a) fields)) = some a := by
  rw [reads, reads, known a, tagged?, tagged?, lookup_among List.mem_cons_self, without_among]
  split
  · rename_i s found
    have same : slots? (names s) (.object (among (tag :: names s) (without tag fields))) =
        slots? (names s) (.object (without tag fields)) :=
      slots?_among fun n member => List.mem_cons_of_mem tag member
    rw [Option.bind_some, Option.bind_some]
    constructor
    · intro first
      rw [named s _ a first, alike s _ _ same]
      exact first
    · intro second
      rw [named s _ a second, alike s _ _ same] at second
      exact second
  · rfl

end Form

/-
A slot that is given is read by its own equation: to unfold the reader would have the equality of
words decided by computation.
-/
@[simp] theorem required_given {α : Type} (decode : Json → Option α) (v : Json) :
    required decode (.given v) = decode v := by
  rw [required]

@[simp] theorem optional_given {α : Type} (decode : Json → Option α) (v : Json) :
    optional decode (.given v) = nullable decode v := by
  rw [optional]

@[simp] theorem defaulted_given {α : Type} (a : α) (decode : Json → Option α) (v : Json) :
    defaulted a decode (.given v) = decode v := by
  rw [defaulted]

@[simp] theorem defaulted_absent {α : Type} (a : α) (decode : Json → Option α) :
    defaulted a decode .absent = some a := by
  rw [defaulted]
  intro v given
  cases given

@[simp] theorem string?_string (s : String) : string? (.string s) = some s := rfl

@[simp] theorem bool?_bool (b : Bool) : bool? (.bool b) = some b := rfl

@[simp] theorem word?_word (n : UInt64) : word? (word n) = some n := by
  have fits : Width.isWord64 n.toNat = true := Width.isWord64_natCast.2 n.toNat_lt
  rw [word, word?, if_pos fits, Int.toNat_natCast, UInt64.ofNat_toNat]

@[simp] theorem nullable_word (n : Option UInt64) : nullable word? (orNull word n) = some n :=
  nullable_orNull (fun n null => by cases null) fun n _ => word?_word n

@[simp] theorem nullable_string (s : Option String) :
    nullable string? (orNull Json.string s) = some s :=
  nullable_orNull (fun s null => by cases null) fun s _ => rfl

@[simp] theorem list?_string (texts : List String) :
    list? string? (.array (texts.map Json.string)) = some texts :=
  each?_map fun _ _ => rfl

@[simp] theorem list?_recipient (rs : List RecipientId) :
    list? RecipientId.ofJson? (.array (rs.map RecipientId.toJson)) = some rs :=
  each?_map fun _ _ => rfl

end Wire

@[simp] theorem RecipientId.ofJson?_toJson (r : RecipientId) : ofJson? r.toJson = some r := rfl

@[simp] theorem RemoteErrorKind.ofJson?_toJson (k : RemoteErrorKind) : ofJson? k.toJson = some k := by
  cases k <;> rfl

@[simp] theorem StepStatus.ofJson?_toJson (s : StepStatus) : ofJson? s.toJson = some s := by
  cases s <;> rfl

theorem Span.ofParts?_parts (d : Span) : ofParts? d.secs d.nanos = some d := by
  obtain ⟨secs, nanos, small⟩ := d
  have many : secs.toNat < Width.words64 := secs.toNat_lt
  have few : nanos < UInt32.size := Nat.lt_trans small (by decide)
  have whole : (secs.toNat * 1000000000 + nanos) / 1000000000 = secs.toNat := by omega
  have part : (secs.toNat * 1000000000 + nanos) % 1000000000 = nanos := by omega
  rw [ofParts?, if_pos few, ofNanos?]
  simp only [whole, part, if_pos many, UInt64.ofNat_toNat]

@[simp] theorem Span.ofJson?_toJson (d : Span) : ofJson? d.toJson = some d := by
  have nanos : Wire.word? (.int d.nanos) = some (UInt64.ofNat d.nanos) := by
    have fits : Width.isWord64 (d.nanos : Nat) = true :=
      Width.isWord64_natCast.2 (Nat.lt_trans d.nanos.isLt (by decide))
    rw [Wire.word?, if_pos fits, Int.toNat_natCast]
  have same : (UInt64.ofNat d.nanos).toNat = d.nanos :=
    UInt64.toNat_ofNat_of_lt' (Nat.lt_trans d.nanos.isLt (by decide))
  simp [ofJson?, toJson, Wire.slots?, Wire.occurrences, Json.lookup, List.lookup_cons, nanos, same,
    ofParts?_parts]

theorem BroadcastOutcome.map?_entries {α : Type} {encode : α → Json} {decode : Json → Option α}
    (back : ∀ a, decode (encode a) = some a) (m : RecipientMap α) :
    map? decode (.object (m.entries.map fun e => (e.1.text, encode e.2))) = some m := by
  have entries : Wire.each? (fun f : String × Json => (decode f.2).map fun a =>
      (RecipientId.mk f.1, a)) (m.entries.map fun e => (e.1.text, encode e.2)) =
      some m.entries := by
    refine Wire.each?_map fun e _ => ?_
    rw [back e.2]
    rfl
  rw [map?, entries, Option.map_some, RecipientMap.ofList_entries]

@[simp] theorem ReplyBody.ofJson?_toJson (b : ReplyBody) : ofJson? b.toJson = some b := by
  cases b <;> rfl

theorem Request.ofJson?_toJson (r : Request) : ofJson? r.toJson = some r := rfl

def Reply.Dated (r : Reply) : Prop := r.receivedAt.inCalendar = true

theorem Reply.ofJson?_toJson {r : Reply} (dated : r.Dated) : ofJson? r.toJson = some r := by
  simp [ofJson?, toJson, Wire.slots?, Wire.occurrences, Json.lookup, List.lookup_cons,
    Timestamp.ofJson?_toJson dated]

theorem Reply.dated_of_ofJson? {v : Json} {r : Reply} (read : ofJson? v = some r) : r.Dated := by
  unfold ofJson? at read
  split at read
  · simp only [Option.bind_eq_bind, Option.bind_eq_some_iff, Option.pure_def,
      Option.some.injEq] at read
    obtain ⟨sender, -, body, -, addressedTo, -, receivedAt, arrival, rfl⟩ := read
    exact Wire.of_required (fun _ _ => Timestamp.inCalendar_of_ofJson?) arrival
  · cases read

@[simp] theorem RemoteError.ofJson?_toJson (e : RemoteError) : ofJson? e.toJson = some e := by
  simp [ofJson?, toJson, Wire.slots?, Wire.occurrences, Json.lookup, List.lookup_cons]

theorem RouteEntry.ofJson?_toJson (e : RouteEntry) : ofJson? e.toJson = some e := by
  simp [ofJson?, toJson, Wire.slots?, Wire.occurrences, Json.lookup, List.lookup_cons]

@[simp] theorem Workflow.ofJson?_toJson (w : Workflow) : ofJson? w.toJson = some w := by
  cases w <;>
    simp [ofJson?, toJson, ofFields?, fieldNames, deadline?, Wire.tagged?, Wire.without,
      Wire.slots?, Wire.occurrences, Json.lookup, List.lookup_cons]

theorem WorkflowPlan.ofJson?_toJson (p : WorkflowPlan) : ofJson? p.toJson = some p := by
  simp [ofJson?, toJson, Wire.slots?, Wire.occurrences, Json.lookup, List.lookup_cons]

theorem BroadcastOutcome.ofJson?_toJson (o : BroadcastOutcome) : ofJson? o.toJson = some o := by
  have succeeded : map? Wire.string? (.object (o.succeeded.entries.map fun e =>
      (e.1.text, Json.string e.2))) = some o.succeeded :=
    map?_entries Wire.string?_string o.succeeded
  have failed := map?_entries RemoteError.ofJson?_toJson o.failed
  simp [ofJson?, toJson, Wire.slots?, Wire.occurrences, Json.lookup, List.lookup_cons,
    RequestId.ofJson?_toJson, succeeded, failed]

theorem BroadcastEvent.ofJson?_toJson (e : BroadcastEvent) : ofJson? e.toJson = some e := by
  cases e <;>
    simp [ofJson?, toJson, ofFields?, fieldNames, Wire.tagged?, Wire.without, Wire.slots?,
      Wire.occurrences, Json.lookup, List.lookup_cons]

def RelayResult.Dated (r : RelayResult) : Prop := ∀ hop ∈ r.observedHops, hop.Dated

theorem RelayResult.ofJson?_toJson {r : RelayResult} (dated : r.Dated) :
    ofJson? r.toJson = some r := by
  have hops : Wire.list? Reply.ofJson? (.array (r.observedHops.map Reply.toJson)) =
      some r.observedHops :=
    Wire.each?_map fun hop member => Reply.ofJson?_toJson (dated hop member)
  simp [ofJson?, toJson, Wire.slots?, Wire.occurrences, Json.lookup, List.lookup_cons,
    RequestId.ofJson?_toJson, hops]

theorem RelayResult.dated_of_ofJson? {v : Json} {r : RelayResult} (read : ofJson? v = some r) :
    r.Dated := by
  unfold ofJson? at read
  split at read
  · simp only [Option.bind_eq_bind, Option.bind_eq_some_iff, Option.pure_def,
      Option.some.injEq] at read
    obtain ⟨id, -, terminal, -, hops, hopsRead, timedOut, -, elapsed, -, notes, -, rfl⟩ := read
    exact Wire.of_required (P := fun hops => ∀ hop ∈ hops, Reply.Dated hop)
      (Wire.of_list? fun _ _ => Reply.dated_of_ofJson?) hopsRead
  · cases read

def WorkflowOutcome.Dated : WorkflowOutcome → Prop
  | .broadcast _ => True
  | .relay r => r.Dated

theorem WorkflowOutcome.ofJson?_toJson {o : WorkflowOutcome} (dated : o.Dated) :
    ofJson? o.toJson = some o := by
  cases o with
  | broadcast o =>
    show (BroadcastOutcome.ofJson? o.toJson).map broadcast = _
    rw [BroadcastOutcome.ofJson?_toJson, Option.map_some]
  | relay r =>
    show (RelayResult.ofJson? r.toJson).map relay = _
    rw [RelayResult.ofJson?_toJson dated, Option.map_some]

theorem WorkflowOutcome.dated_of_ofJson? {v : Json} {o : WorkflowOutcome}
    (read : ofJson? v = some o) : o.Dated := by
  unfold ofJson? at read
  split at read
  · obtain ⟨o, -, rfl⟩ := Option.map_eq_some_iff.1 read
    trivial
  · obtain ⟨r, result, rfl⟩ := Option.map_eq_some_iff.1 read
    exact RelayResult.dated_of_ofJson? result
  · cases read

theorem Settings.ofJson?_toJson (s : Settings) : ofJson? s.toJson = some s := by
  simp [ofJson?, toJson, fieldNames, Wire.slots?, Wire.occurrences, Json.lookup, List.lookup_cons]

def ReplyBody.form : Wire.Form ReplyBody := ⟨toJson, ofJson?, fun _ => ["type", "value"], []⟩

def Request.form : Wire.Form Request := ⟨toJson, ofJson?, fun _ => ["request_id", "payload"], []⟩

def Reply.form : Wire.Form Reply :=
  ⟨toJson, ofJson?, fun _ => ["sender", "body", "addressed_to", "received_at"],
    [("addressed_to", .array [])]⟩

def RemoteError.form : Wire.Form RemoteError := ⟨toJson, ofJson?, fun _ => ["kind", "detail"], []⟩

def RouteEntry.form : Wire.Form RouteEntry :=
  ⟨toJson, ofJson?, fun _ => ["participant", "status", "duration_ms"], [("duration_ms", .null)]⟩

def Workflow.form : Wire.Form Workflow :=
  ⟨toJson, ofJson?, fun w => "pattern" :: fieldNames w.pattern, [("deadline_ms", .null)]⟩

def WorkflowPlan.form : Wire.Form WorkflowPlan :=
  ⟨toJson, ofJson?, fun _ => ["name", "payload", "workflow"], []⟩

def WorkflowOutcome.form : Wire.Form WorkflowOutcome :=
  ⟨toJson, ofJson?, fun _ => ["pattern", "outcome"], []⟩

def BroadcastOutcome.form : Wire.Form BroadcastOutcome :=
  ⟨toJson, ofJson?, fun _ => ["request_id", "succeeded", "failed", "missing"], []⟩

def BroadcastEvent.form : Wire.Form BroadcastEvent :=
  ⟨toJson, ofJson?, fun e => "event" :: fieldNames e.name, []⟩

def RelayResult.form : Wire.Form RelayResult :=
  ⟨toJson, ofJson?, fun _ =>
      ["request_id", "terminal_payload", "observed_hops", "timed_out", "elapsed", "notes"],
    [("terminal_payload", .null), ("notes", .array [])]⟩

/-- Every field may be absent, and then has its standard value. -/
def Settings.form : Wire.Form Settings :=
  ⟨toJson, ofJson?, fun _ => fieldNames,
    [("broadcast_deadline_ms", Wire.word standard.broadcastDeadlineMs),
      ("coordinator", .string standard.coordinator),
      ("dispatch_timeout_ms", Wire.word standard.dispatchTimeoutMs),
      ("relay_deadline_ms", Wire.word standard.relayDeadlineMs),
      ("topic_prefix", .string standard.topicPrefix),
      ("trace_store_timeout_ms", Wire.word standard.traceStoreTimeoutMs),
      ("trace_ttl_secs", Wire.word standard.traceTtlSecs)]⟩

theorem ReplyBody.faithful : ReplyBody.form.Faithful fun _ => True := by
  refine Wire.Form.faithful (fun b _ => b.ofJson?_toJson) (fun _ _ _ => trivial) ?_ ?_ ?_
  · intro fields b
    show ofJson? _ = _ ↔ ofJson? (.object (Wire.among ["type", "value"] fields)) = _
    rw [ofJson?, ofJson?, Wire.tagContent?_among (by simp) (by simp)]
  · exact fun d member => (List.not_mem_nil member).elim
  · intro b
    cases b <;> exact ⟨_, rfl, by simp [form], by simp [form]⟩

theorem Request.faithful : Request.form.Faithful fun _ => True := by
  refine Wire.Form.faithful_of_slots (fun r _ => r.ofJson?_toJson) (fun _ _ _ => trivial)
    (fun _ => rfl) ?_ ?_ ?_
  · intro v w same
    show ofJson? v = ofJson? w
    rw [ofJson?, ofJson?, same]
  · exact fun d member => (List.not_mem_nil member).elim
  · exact fun r => ⟨_, rfl, by simp [form], by simp [form]⟩

theorem Reply.faithful : Reply.form.Faithful Reply.Dated := by
  refine Wire.Form.faithful_of_slots (fun r => ofJson?_toJson) (fun v r => dated_of_ofJson?)
    (fun _ => rfl) ?_ ?_ ?_
  · intro v w same
    show ofJson? v = ofJson? w
    rw [ofJson?, ofJson?, same]
  · intro d member fields absent
    obtain rfl := List.mem_singleton.1 member
    show ofJson? _ = ofJson? _
    rw [ofJson?, ofJson?, Wire.slots?_cons absent, Wire.slots?_object]
    cases Wire.distinctly ["sender", "body", "addressed_to", "received_at"] fields with
    | false => rfl
    | true => simp [Wire.slot_of_absent absent, Wire.defaulted, Wire.list?, Wire.each?]
  · exact fun r => ⟨_, rfl, by simp [form], by simp [form]⟩

theorem RemoteError.faithful : RemoteError.form.Faithful fun _ => True := by
  refine Wire.Form.faithful_of_slots (fun e _ => e.ofJson?_toJson) (fun _ _ _ => trivial)
    (fun _ => rfl) ?_ ?_ ?_
  · intro v w same
    show ofJson? v = ofJson? w
    rw [ofJson?, ofJson?, same]
  · exact fun d member => (List.not_mem_nil member).elim
  · exact fun e => ⟨_, rfl, by simp [form], by simp [form]⟩

theorem RouteEntry.faithful : RouteEntry.form.Faithful fun _ => True := by
  refine Wire.Form.faithful_of_slots (fun e _ => e.ofJson?_toJson) (fun _ _ _ => trivial)
    (fun _ => rfl) ?_ ?_ ?_
  · intro v w same
    show ofJson? v = ofJson? w
    rw [ofJson?, ofJson?, same]
  · intro d member fields absent
    obtain rfl := List.mem_singleton.1 member
    show ofJson? _ = ofJson? _
    rw [ofJson?, ofJson?, Wire.slots?_cons absent, Wire.slots?_object]
    cases Wire.distinctly ["participant", "status", "duration_ms"] fields with
    | false => rfl
    | true => simp [Wire.slot_of_absent absent, Wire.optional, Wire.nullable]
  · exact fun e => ⟨_, rfl, by simp [form], by simp [form]⟩

theorem Workflow.pattern_of_ofFields? {s : String} {v : Json} {w : Workflow}
    (read : ofFields? s v = some w) : w.pattern = s := by
  unfold ofFields? at read
  split at read
  · simp only [Option.bind_eq_bind, Option.bind_eq_some_iff, Option.pure_def,
      Option.some.injEq] at read
    obtain ⟨recipients, -, deadlineMs, -, rfl⟩ := read
    rfl
  · simp only [Option.bind_eq_bind, Option.bind_eq_some_iff, Option.pure_def,
      Option.some.injEq] at read
    obtain ⟨seeds, -, marker, -, deadlineMs, -, rfl⟩ := read
    rfl
  · cases read

/-- A deadline that is absent is as good as one that is null. -/
theorem Workflow.ofFields?_filled {s : String} {fields : List (String × Json)}
    (absent : Json.lookup "deadline_ms" fields = none) :
    ofFields? s (.object (("deadline_ms", .null) :: fields)) = ofFields? s (.object fields) := by
  unfold ofFields?
  rw [Wire.slots?_cons absent, Wire.slots?_object]
  cases Wire.distinctly (fieldNames s) fields with
  | false => rfl
  | true =>
    by_cases broadcast : s = "broadcast"
    · subst broadcast
      simp [fieldNames, Wire.slot_of_absent absent, deadline?, Wire.defaulted, Wire.nullable]
    · by_cases relay : s = "relay"
      · subst relay
        simp [fieldNames, Wire.slot_of_absent absent, deadline?, Wire.defaulted, Wire.nullable]
      · have unknown : fieldNames s = [] := by
          unfold fieldNames
          split
          · exact absurd rfl broadcast
          · exact absurd rfl relay
          · rfl
        rw [unknown]
        rfl

theorem Workflow.faithful : Workflow.form.Faithful fun _ => True := by
  refine Wire.Form.faithful (fun w _ => w.ofJson?_toJson) (fun _ _ _ => trivial) ?_ ?_ ?_
  · refine Wire.Form.dropped_of_tag (fun _ => rfl) (fun _ => rfl)
      (fun s v w => pattern_of_ofFields?) fun s v w same => ?_
    unfold ofFields?
    rw [same]
  · intro d member fields absent
    obtain rfl := List.mem_singleton.1 member
    show ofJson? _ = ofJson? _
    rw [ofJson?, ofJson?, Wire.tagged?, Wire.tagged?, Wire.lookup_cons, if_neg (by decide)]
    split
    · exact ofFields?_filled ((Wire.lookup_without (by decide)).trans absent)
    · rfl
  · intro w
    cases w <;> exact ⟨_, rfl, by simp [form, pattern, fieldNames], by simp [form]⟩

theorem WorkflowPlan.faithful : WorkflowPlan.form.Faithful fun _ => True := by
  refine Wire.Form.faithful_of_slots (fun p _ => p.ofJson?_toJson) (fun _ _ _ => trivial)
    (fun _ => rfl) ?_ ?_ ?_
  · intro v w same
    show ofJson? v = ofJson? w
    rw [ofJson?, ofJson?, same]
  · exact fun d member => (List.not_mem_nil member).elim
  · exact fun p => ⟨_, rfl, by simp [form], by simp [form]⟩

theorem BroadcastOutcome.faithful : BroadcastOutcome.form.Faithful fun _ => True := by
  refine Wire.Form.faithful_of_slots (fun o _ => o.ofJson?_toJson) (fun _ _ _ => trivial)
    (fun _ => rfl) ?_ ?_ ?_
  · intro v w same
    show ofJson? v = ofJson? w
    rw [ofJson?, ofJson?, same]
  · exact fun d member => (List.not_mem_nil member).elim
  · exact fun o => ⟨_, rfl, by simp [form], by simp [form]⟩

theorem BroadcastEvent.name_of_ofFields? {s : String} {v : Json} {e : BroadcastEvent}
    (read : ofFields? s v = some e) : e.name = s := by
  unfold ofFields? at read
  split at read
  · simp only [Option.bind_eq_bind, Option.bind_eq_some_iff, Option.pure_def,
      Option.some.injEq] at read
    obtain ⟨sender, -, payload, -, rfl⟩ := read
    rfl
  · simp only [Option.bind_eq_bind, Option.bind_eq_some_iff, Option.pure_def,
      Option.some.injEq] at read
    obtain ⟨sender, -, error, -, rfl⟩ := read
    rfl
  · simp only [Option.bind_eq_bind, Option.bind_eq_some_iff, Option.pure_def,
      Option.some.injEq] at read
    obtain ⟨recipients, -, notes, -, rfl⟩ := read
    rfl
  · cases read

theorem BroadcastEvent.faithful : BroadcastEvent.form.Faithful fun _ => True := by
  refine Wire.Form.faithful (fun e _ => e.ofJson?_toJson) (fun _ _ _ => trivial) ?_ ?_ ?_
  · refine Wire.Form.dropped_of_tag (fun _ => rfl) (fun _ => rfl) (fun s v e => name_of_ofFields?)
      fun s v w same => ?_
    unfold ofFields?
    rw [same]
  · exact fun d member => (List.not_mem_nil member).elim
  · intro e
    cases e <;> exact ⟨_, rfl, by simp [form, name, fieldNames], by simp [form]⟩

theorem WorkflowOutcome.faithful : WorkflowOutcome.form.Faithful WorkflowOutcome.Dated := by
  refine Wire.Form.faithful (fun o => ofJson?_toJson) (fun v o => dated_of_ofJson?) ?_ ?_ ?_
  · intro fields o
    show ofJson? _ = _ ↔ ofJson? (.object (Wire.among ["pattern", "outcome"] fields)) = _
    rw [ofJson?, ofJson?, Wire.tagContent?_among (by simp) (by simp)]
  · exact fun d member => (List.not_mem_nil member).elim
  · intro o
    cases o <;> exact ⟨_, rfl, by simp [form], by simp [form]⟩

theorem RelayResult.faithful : RelayResult.form.Faithful RelayResult.Dated := by
  refine Wire.Form.faithful_of_slots (fun r => ofJson?_toJson) (fun v r => dated_of_ofJson?)
    (fun _ => rfl) ?_ ?_ ?_
  · intro v w same
    show ofJson? v = ofJson? w
    rw [ofJson?, ofJson?, same]
  · intro d member fields absent
    show ofJson? _ = ofJson? _
    rw [ofJson?, ofJson?, Wire.slots?_cons absent, Wire.slots?_object]
    cases Wire.distinctly ["request_id", "terminal_payload", "observed_hops", "timed_out", "elapsed",
      "notes"] fields with
    | false => rfl
    | true =>
      rcases List.mem_pair.1 member with rfl | rfl
      · simp [Wire.slot_of_absent absent, Wire.optional, Wire.nullable]
      · simp [Wire.slot_of_absent absent, Wire.defaulted, Wire.list?, Wire.each?]
  · exact fun r => ⟨_, rfl, by simp [form], by simp [form]⟩

theorem Settings.faithful : Settings.form.Faithful fun _ => True := by
  have known : ∀ s, Settings.form.known s = fieldNames := fun _ => rfl
  refine Wire.Form.faithful_of_slots (fun s _ => s.ofJson?_toJson) (fun _ _ _ => trivial) known
    ?_ ?_ ?_
  · intro v w same
    show ofJson? v = ofJson? w
    rw [ofJson?, ofJson?, same]
  · intro d member fields absent
    show ofJson? _ = ofJson? _
    rw [ofJson?, ofJson?, Wire.slots?_cons absent, Wire.slots?_object]
    cases Wire.distinctly fieldNames fields with
    | false => rfl
    | true =>
      simp only [form, List.mem_cons, List.not_mem_nil, or_false] at member
      rcases member with rfl | rfl | rfl | rfl | rfl | rfl | rfl <;>
        simp [fieldNames, Wire.slot_of_absent absent]
  · exact fun s => ⟨_, rfl, by simp [form, fieldNames], by simp [form]⟩

/--
Every value of these types reads back from its JSON, so that no two are written alike; and what is
accepted in another form is the same as without the fields that are not read and with the fields
that may be absent, and settles when it is written. Instants are those of the calendar.
-/
theorem wire_values_round_trip :
    ReplyBody.form.Faithful (fun _ => True) ∧ Request.form.Faithful (fun _ => True) ∧
    Reply.form.Faithful Reply.Dated ∧ RemoteError.form.Faithful (fun _ => True) ∧
    RouteEntry.form.Faithful (fun _ => True) ∧ Workflow.form.Faithful (fun _ => True) ∧
    WorkflowPlan.form.Faithful (fun _ => True) ∧
    WorkflowOutcome.form.Faithful WorkflowOutcome.Dated ∧
    BroadcastOutcome.form.Faithful (fun _ => True) ∧
    BroadcastEvent.form.Faithful (fun _ => True) ∧ RelayResult.form.Faithful RelayResult.Dated ∧
    Settings.form.Faithful (fun _ => True) :=
  ⟨ReplyBody.faithful, Request.faithful, Reply.faithful, RemoteError.faithful, RouteEntry.faithful,
    Workflow.faithful, WorkflowPlan.faithful, WorkflowOutcome.faithful, BroadcastOutcome.faithful,
    BroadcastEvent.faithful, RelayResult.faithful, Settings.faithful⟩

example : RouteEntry.form.rewrite (.object
    [("status", .object [("open", .null)]), ("color", .int 7), ("participant", .string "Farm")]) =
    some (.object
      [("duration_ms", .null), ("participant", .string "Farm"), ("status", .string "open")]) := rfl

end RollCall
