import RollCall.Proofs.Instants
import RollCall.Proofs.Numerals
import RollCall.Proofs.Variables

set_option autoImplicit false

/-!
Settings put into the environment, each field as plain text in its variable, and loaded from there.
A label that looks like a truth value or a number comes back as such a value is written, and a large
number is rounded; all else comes back as it was.
-/
namespace RollCall

namespace Double

theorem isDigit_shortest (x : Double) : ∀ c ∈ x.shortest.1, c.isDigit = true := by
  intro c member
  unfold shortest at member
  split at member
  · rw [List.mem_singleton.1 member]
    decide
  · apply Literal.isDigit_toDigits (x.firstHit 16 (magnitude x.ratio.1 x.ratio.2 - 1)).1 c
    have trimmed := List.mem_reverse.1 member
    exact List.mem_reverse.1 ((List.dropWhile_sublist _).mem trimmed)

/-- Written out around the point, a number has a digit or the point. -/
theorem exists_mem_positionalText (style : Style) {ds : List Char} (e : Int)
    (digits : ∀ c ∈ ds, c.isDigit = true) :
    ∃ c ∈ positionalText style ds e, c.isDigit = true ∨ c = '.' := by
  unfold positionalText
  split
  · exact ⟨'0', List.mem_cons_self, .inl (by decide)⟩
  · dsimp only
    split
    · cases ds with
      | nil =>
        refine ⟨'0', ?_, .inl (by decide)⟩
        simp
      | cons d ds =>
        exact ⟨d, by simp, .inl (digits d List.mem_cons_self)⟩
    · exact ⟨'.', by simp, .inr rfl⟩

end Double

namespace Text

theorem isBlank_of_mem {s : String} {c : Char} (member : c ∈ s.toList)
    (solid : isSpace c = false) : isBlank s = false := by
  rw [← Bool.not_eq_true, isBlank_iff]
  intro blank
  rw [blank c member] at solid
  cases solid

theorem isBlank_toString_int (i : Int) : isBlank (toString i) = false := by
  cases i with
  | ofNat n =>
    obtain ⟨c, cs, split, digit⟩ := Literal.exists_toDigits n
    have digits : (toString (Int.ofNat n)).toList = Nat.toDigits 10 n := String.toList_ofList
    exact isBlank_of_mem (by rw [digits, split]; exact List.mem_cons_self)
      (Timestamp.isSpace_of_isDigit digit)
  | negSucc n =>
    have sign : toString (Int.negSucc n) = "-" ++ toString (n + 1) := rfl
    refine isBlank_of_mem (c := '-') ?_ (by decide)
    rw [sign, String.toList_append]
    exact List.mem_append_left _ (by decide)

theorem isBlank_realText (x : Real) : isBlank (SettingValue.realText x) = false := by
  cases x with
  | finite x =>
    obtain ⟨c, member, kind⟩ :=
      Double.exists_mem_positionalText SettingValue.numberStyle x.shortest.2 x.isDigit_shortest
    refine isBlank_of_mem (c := c) ?_ ?_
    · rw [SettingValue.realText, String.toList_ofList]
      exact List.mem_append_right _ member
    · rcases kind with digit | point
      · exact Timestamp.isSpace_of_isDigit digit
      · rw [point]
        decide
  | infinite negative => cases negative <;> decide
  | notANumber => decide

end Text

namespace Environment

variable {s : String}

/-- The label that is read where a variable has a label. -/
def relabel (s : String) : String :=
  match value s with
  | .bool b => if b then "true" else "false"
  | .int i => toString i
  | .real x => SettingValue.realText x
  | _ => s

/-- A label is taken for nothing else, or for a value that is written just so. -/
@[mk_iff]
structure Kept (s : String) : Prop where
  truth : ∀ b, value s = .bool b → s = if b then "true" else "false"
  whole : ∀ i, value s = .int i → s = toString i
  real : ∀ x, value s = .real x → s = SettingValue.realText x

theorem value_cases (s : String) : value s = .text s ∨ (∃ b, value s = .bool b) ∨
    (∃ i, value s = .int i) ∨ ∃ x, value s = .real x := by
  unfold value
  dsimp only
  split
  · exact .inr (.inl ⟨_, rfl⟩)
  · split
    · exact .inr (.inl ⟨_, rfl⟩)
    · split
      · exact .inr (.inr (.inl ⟨_, rfl⟩))
      · split
        · exact .inr (.inr (.inr ⟨_, rfl⟩))
        · exact .inl rfl

theorem toText?_value (s : String) : (value s).toText? = some (relabel s) := by
  unfold relabel
  rcases value_cases s with own | ⟨b, own⟩ | ⟨i, own⟩ | ⟨x, own⟩ <;> rw [own] <;> rfl

theorem relabel_eq_self_iff : relabel s = s ↔ Kept s := by
  rw [kept_iff, eq_comm, relabel]
  rcases value_cases s with own | ⟨b, own⟩ | ⟨i, own⟩ | ⟨x, own⟩ <;> simp [own]

theorem isBlank_relabel (named : Text.isBlank s = false) : Text.isBlank (relabel s) = false := by
  unfold relabel
  rcases value_cases s with own | ⟨b, own⟩ | ⟨i, own⟩ | ⟨x, own⟩ <;> rw [own]
  · exact named
  · cases b with
    | true => exact (by decide : Text.isBlank "true" = false)
    | false => exact (by decide : Text.isBlank "false" = false)
  · exact Text.isBlank_toString_int i
  · exact Text.isBlank_realText x

end Environment

namespace Settings

def plainTexts (c : Settings) : List (String × String) :=
  [("coordinator", c.coordinator),
    ("broadcast_deadline_ms", toString c.broadcastDeadlineMs),
    ("dispatch_timeout_ms", toString c.dispatchTimeoutMs),
    ("relay_deadline_ms", toString c.relayDeadlineMs),
    ("trace_ttl_secs", toString c.traceTtlSecs),
    ("trace_store_timeout_ms", toString c.traceStoreTimeoutMs),
    ("topic_prefix", c.topicPrefix)]

/-- The settings that are read where the environment has settings. -/
def reread (c : Settings) : Settings where
  coordinator := Environment.relabel c.coordinator
  broadcastDeadlineMs := Environment.reread c.broadcastDeadlineMs
  dispatchTimeoutMs := Environment.reread c.dispatchTimeoutMs
  relayDeadlineMs := Environment.reread c.relayDeadlineMs
  traceTtlSecs := Environment.reread c.traceTtlSecs
  traceStoreTimeoutMs := Environment.reread c.traceStoreTimeoutMs
  topicPrefix := Environment.relabel c.topicPrefix

/--
Settings that come back as they are: both labels do, and every length of time is below the half of
the range, or a double, or the greatest of all.
-/
@[mk_iff]
structure Unchanged (c : Settings) : Prop where
  coordinator : Environment.Kept c.coordinator
  topicPrefix : Environment.Kept c.topicPrefix
  lengths : ∀ l ∈ c.lengths, l.2.toNat < 9223372036854775808 ∨ l.2.toNat % 2048 = 0 ∨
    l.2.toNat = Width.words64 - 1

/-- The environment has every field of some settings as plain text, each in its variable. -/
structure ExportedTo (c : Settings) (env : Environment) : Prop where
  orderly : env.Orderly
  fields : ∀ e ∈ c.plainTexts, env.lookup (Environment.nameOf e.1) = some e.2

variable {c : Settings} {env : Environment}

theorem lengths_reread (c : Settings) :
    c.reread.lengths = c.lengths.map fun l => (l.1, Environment.reread l.2) := rfl

theorem reread_eq_self_iff : c.reread = c ↔ c.Unchanged := by
  rw [unchanged_iff]
  simp only [← Environment.relabel_eq_self_iff, ← Environment.reread_eq_self_iff, lengths,
    List.forall_mem_cons, List.not_mem_nil, false_imp_iff, implies_true, and_true]
  cases c
  simp only [reread, mk.injEq]
  tauto

theorem fault?_reread (acceptable : c.fault? = none) : c.reread.fault? = none := by
  rw [fault?_eq_none_iff] at acceptable ⊢
  obtain ⟨named, lengths⟩ := acceptable
  refine ⟨Environment.isBlank_relabel named, ?_⟩
  rw [lengths_reread, List.forall_mem_map]
  exact fun l member => Environment.reread_ne_zero (lengths l member)

section Fields

variable {name : String}

theorem ExportedTo.chosen? {text : String} (exported : c.ExportedTo env)
    (listed : (name, text) ∈ c.plainTexts) :
    Settings.chosen? [env.layer] name = some (Environment.value text) := by
  have known : name ∈ fieldNames := List.mem_map_of_mem (f := Prod.fst) listed
  rw [chosen?_cons, exported.orderly.value?_layer known, Environment.stated?,
    exported.fields _ listed]
  rfl

theorem ExportedTo.textField? {s : String} (exported : c.ExportedTo env)
    (listed : (name, s) ∈ c.plainTexts) (standard : String) :
    Settings.textField? standard [env.layer] name = some (Environment.relabel s) := by
  rw [Settings.textField?, field?, exported.chosen? listed]
  exact Environment.toText?_value s

theorem ExportedTo.wordField? {n : UInt64} (exported : c.ExportedTo env)
    (listed : (name, toString n) ∈ c.plainTexts) (standard : UInt64) :
    Settings.wordField? standard [env.layer] name = some (Environment.reread n) := by
  rw [Settings.wordField?, field?, exported.chosen? listed]
  exact Environment.toWord?_value_toString n

end Fields

theorem ExportedTo.ofLayers? (exported : c.ExportedTo env) :
    Settings.ofLayers? [env.layer] = some c.reread := by
  have listed (i : Nat) {e : String × String} (there : c.plainTexts[i]? = some e) :
      e ∈ c.plainTexts := List.mem_of_getElem? there
  simp only [Settings.ofLayers?, exported.textField? (listed 0 rfl),
    exported.wordField? (listed 1 rfl), exported.wordField? (listed 2 rfl),
    exported.wordField? (listed 3 rfl), exported.wordField? (listed 4 rfl),
    exported.wordField? (listed 5 rfl), exported.textField? (listed 6 rfl)]
  rfl

def exports (c : Settings) : Environment :=
  c.plainTexts.map fun e => (Environment.nameOf e.1, e.2)

theorem nodup_names : (fieldNames.map Environment.nameOf).Nodup := by decide +kernel

/-- No field is part of another. -/
theorem eq_of_concerns : ∀ field ∈ fieldNames, ∀ other ∈ fieldNames,
    other.toLower = field ∨ SettingLayer.isPartOf field.toList other.toLower.toList = true →
      other = field := by
  decide +kernel

theorem exportedTo_exports (c : Settings) : c.ExportedTo c.exports := by
  have names : c.exports.map Prod.fst = fieldNames.map Environment.nameOf := rfl
  refine ⟨⟨names ▸ nodup_names, ?_⟩, ?_⟩
  · intro v member field known ⟨key, own, concerned⟩
    obtain ⟨other, listed, same⟩ := List.mem_map.1 (names ▸ List.mem_map_of_mem member)
    rw [← same, Environment.key?_nameOf other listed, Option.some.injEq] at own
    rw [← same, eq_of_concerns field known other listed (own ▸ concerned)]
  · intro e listed
    have member : (Environment.nameOf e.1, e.2) ∈ c.exports :=
      List.mem_map_of_mem (f := fun e => (Environment.nameOf e.1, e.2)) listed
    obtain ⟨before, after, split⟩ := List.append_of_mem member
    have once := nodup_names
    rw [← names, split, List.map_append, List.map_cons, List.nodup_append] at once
    -- Names are set once, so what comes before is under other names.
    refine List.lookup_eq_some_iff.2 ⟨before, after, split, fun v earlier => ?_⟩
    have different := once.2.2 v.1 (List.mem_map_of_mem earlier) _ List.mem_cons_self
    simpa using Ne.symm different

theorem ExportedTo.ofEnvironment_eq (exported : c.ExportedTo env)
    (acceptable : c.fault? = none) : ofEnvironment env none = .ok c.reread := by
  have layers : ofEnvironment env none = ofLayers [env.layer] := rfl
  rw [layers, ofLayers, exported.ofLayers?]
  simp only [fault?_reread acceptable]

/-- Settings are loaded from the environment, though not always as they are. -/
theorem ofEnvironment_exported_iff (exported : c.ExportedTo env) (acceptable : c.fault? = none) :
    ofEnvironment env none = .ok c.reread ∧
    (ofEnvironment env none = .ok c ↔ c.Unchanged) := by
  have loaded := exported.ofEnvironment_eq acceptable
  refine ⟨loaded, ?_⟩
  rw [loaded, Except.ok.injEq, reread_eq_self_iff]

/-- Acceptable settings with a label that looks like a number, and with a number of all 64 bits. -/
def numbered : Settings := { coordinator := "007", traceTtlSecs := 9223372036854775809 }

theorem exported_label_changed :
    numbered.ExportedTo numbered.exports ∧ numbered.fault? = none ∧
    ofEnvironment numbered.exports none =
      .ok { numbered with coordinator := "7", traceTtlSecs := 9223372036854775808 } ∧
    ofEnvironment numbered.exports none ≠ .ok numbered := by
  have exported := exportedTo_exports numbered
  have acceptable : numbered.fault? = none := by decide
  have changed : numbered.reread =
      { numbered with coordinator := "7", traceTtlSecs := 9223372036854775808 } := by
    decide +kernel
  refine ⟨exported, acceptable, ?_, ?_⟩
  · rw [exported.ofEnvironment_eq acceptable, changed]
  · rw [exported.ofEnvironment_eq acceptable, changed]
    decide

theorem ofEnvironment_exported_iff_rehearsal :
    ofEnvironment (exports { coordinator := "route 66", traceTtlSecs := 18446744073709551615 })
      none = .ok { coordinator := "route 66", traceTtlSecs := 18446744073709551615 } := by
  have label : Environment.value "route 66" = .text "route 66" := by decide +kernel
  have topic : Environment.value "switchboard" = .text "switchboard" := by decide +kernel
  refine (ofEnvironment_exported_iff (exportedTo_exports _) (by decide)).2.2 ⟨?_, ?_, by decide⟩
  · simp [Environment.kept_iff, label]
  · simp [Environment.kept_iff, topic]

end Settings

end RollCall
