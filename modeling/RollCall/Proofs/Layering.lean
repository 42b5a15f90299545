import RollCall.Proofs.Variables

set_option autoImplicit false

/-!
Settings decided field by field. What the process has in its environment comes before what a file of
variables assigns, that before what a file of settings says, and the standard value comes last. What
one of them says about a field that comes before it has no effect, as long as it can be read.
-/
namespace RollCall

/--
A reader of files of variables sets the variables that a text assigns unless they are set: those of
the environment stay as they are, and of equal names the first counts.
-/
structure SettingsReader.Lawful {File : Type} (reader : SettingsReader File)
    (assigned : Environment → String → List (String × String)) : Prop where
  first : ∀ env text name, (reader.withVariables env text).lookup name =
    (env.lookup name).or ((assigned env text).lookup name)
  once : ∀ env text, (env.map Prod.fst).Nodup → ((reader.withVariables env text).map Prod.fst).Nodup

namespace Settings

def overriding? (env : Environment) (assigned : List (String × String)) (field : String) :
    Option SettingValue :=
  (Environment.stated? env field).or (Environment.stated? assigned field)

/-- What decides a field: the environment, or else a file of variables, or else a layer. -/
def decisive? (env : Environment) (assigned : List (String × String)) (l : SettingLayer)
    (field : String) : Option SettingValue :=
  (overriding? env assigned field).or (l.value? field)

/-- A field has its standard value, or the meaning that its type gives to the value for it. -/
inductive TakesUp {α : Type} (convert : SettingValue → Option α) (standard : α) :
    Option SettingValue → α → Prop
  | standard : TakesUp convert standard none standard
  | given {v : SettingValue} {x : α} (meant : convert v = some x) :
      TakesUp convert standard (some v) x

/-- Settings have in each field what is said about it. -/
structure Decided (stated : String → Option SettingValue) (c : Settings) : Prop where
  coordinator : TakesUp SettingValue.toText? standard.coordinator
    (stated "coordinator") c.coordinator
  broadcastDeadlineMs : TakesUp SettingValue.toWord? standard.broadcastDeadlineMs
    (stated "broadcast_deadline_ms") c.broadcastDeadlineMs
  dispatchTimeoutMs : TakesUp SettingValue.toWord? standard.dispatchTimeoutMs
    (stated "dispatch_timeout_ms") c.dispatchTimeoutMs
  relayDeadlineMs : TakesUp SettingValue.toWord? standard.relayDeadlineMs
    (stated "relay_deadline_ms") c.relayDeadlineMs
  traceTtlSecs : TakesUp SettingValue.toWord? standard.traceTtlSecs
    (stated "trace_ttl_secs") c.traceTtlSecs
  traceStoreTimeoutMs : TakesUp SettingValue.toWord? standard.traceStoreTimeoutMs
    (stated "trace_store_timeout_ms") c.traceStoreTimeoutMs
  topicPrefix : TakesUp SettingValue.toText? standard.topicPrefix
    (stated "topic_prefix") c.topicPrefix

theorem field?_eq_some_iff {α : Type} {convert : SettingValue → Option α} {standard : α}
    {layers : List SettingLayer} {name : String} {x : α} :
    field? convert standard layers name = some x ↔
      TakesUp convert standard (chosen? layers name) x := by
  unfold field?
  constructor
  · intro taken
    split at taken
    · rename_i v said
      rw [said]
      exact .given taken
    · rename_i silent
      cases taken
      rw [silent]
      exact .standard
  · intro taken
    cases said : chosen? layers name with
    | none =>
      rw [said] at taken
      cases taken
      rfl
    | some v =>
      rw [said] at taken
      cases taken with
      | given meant => exact meant

variable {layers : List SettingLayer} {c : Settings}

theorem ofLayers?_eq_some_iff : ofLayers? layers = some c ↔ Decided (chosen? layers) c := by
  simp only [ofLayers?, textField?, wordField?, Option.bind_eq_bind, Option.bind_eq_some_iff,
    field?_eq_some_iff, Option.pure_def, Option.some.injEq]
  constructor
  · rintro ⟨coordinator, ofCoordinator, broadcast, ofBroadcast, dispatch, ofDispatch, relay,
      ofRelay, ttl, ofTtl, store, ofStore, topic, ofTopic, rfl⟩
    exact ⟨ofCoordinator, ofBroadcast, ofDispatch, ofRelay, ofTtl, ofStore, ofTopic⟩
  · intro decided
    exact ⟨_, decided.coordinator, _, decided.broadcastDeadlineMs, _, decided.dispatchTimeoutMs,
      _, decided.relayDeadlineMs, _, decided.traceTtlSecs, _, decided.traceStoreTimeoutMs,
      _, decided.topicPrefix, rfl⟩

theorem ofLayers_eq_ok_iff :
    ofLayers layers = .ok c ↔ Decided (chosen? layers) c ∧ c.fault? = none := by
  rw [ofLayers, ← ofLayers?_eq_some_iff]
  cases ofLayers? layers with
  | none => simp
  | some own =>
    simp only [Option.some.injEq]
    constructor
    · intro loaded
      split at loaded
      · cases loaded
      · rename_i fine
        cases loaded
        exact ⟨rfl, fine⟩
    · rintro ⟨rfl, fine⟩
      simp only [fine]

theorem Decided.congr {stated others : String → Option SettingValue}
    (same : ∀ field ∈ fieldNames, stated field = others field) (decided : Decided stated c) :
    Decided others c := by
  simp only [fieldNames, List.forall_mem_cons] at same
  obtain ⟨coordinator, broadcast, dispatch, relay, ttl, store, topic, -⟩ := same
  exact ⟨coordinator ▸ decided.coordinator, broadcast ▸ decided.broadcastDeadlineMs,
    dispatch ▸ decided.dispatchTimeoutMs, relay ▸ decided.relayDeadlineMs,
    ttl ▸ decided.traceTtlSecs, store ▸ decided.traceStoreTimeoutMs, topic ▸ decided.topicPrefix⟩

theorem decided_congr {stated others : String → Option SettingValue}
    (same : ∀ field ∈ fieldNames, stated field = others field) :
    Decided stated c ↔ Decided others c :=
  ⟨Decided.congr same, Decided.congr fun field known => (same field known).symm⟩

/-- Layers count for what they say about the fields. -/
theorem ofLayers_congr {others : List SettingLayer}
    (same : ∀ field ∈ fieldNames, chosen? layers field = chosen? others field) :
    ofLayers layers = ofLayers others := by
  have fields : ofLayers? layers = ofLayers? others := by
    ext c
    rw [ofLayers?_eq_some_iff, ofLayers?_eq_some_iff, decided_congr same]
  rw [ofLayers, ofLayers, fields]

end Settings

namespace SettingsReader

open Settings

variable {File : Type} {reader : SettingsReader File}
  {assigned : Environment → String → List (String × String)} {env : Environment}
  {envFile envFile' : Option String} {l l' : SettingLayer} {file file' : File} {c : Settings}

/-- What a file of variables assigns, if there is one. -/
def assignments (assigned : Environment → String → List (String × String)) (env : Environment)
    (envFile : Option String) : List (String × String) :=
  envFile.elim [] (assigned env)

theorem Lawful.lookup (lawful : reader.Lawful assigned) (env : Environment)
    (envFile : Option String) (name : String) :
    (reader.environment env envFile).lookup name =
      (env.lookup name).or ((assignments assigned env envFile).lookup name) := by
  cases envFile with
  | none => exact Option.or_none.symm
  | some text => exact lawful.first env text name

theorem Lawful.stated? (lawful : reader.Lawful assigned) (field : String) :
    Environment.stated? (reader.environment env envFile) field =
      overriding? env (assignments assigned env envFile) field := by
  rw [Environment.stated?, lawful.lookup, Option.map_or]
  rfl

theorem Lawful.orderly (lawful : reader.Lawful assigned) (orderly : env.Orderly)
    (named : Environment.Named (assignments assigned env envFile)) :
    (reader.environment env envFile).Orderly := by
  constructor
  · cases envFile with
    | none => exact orderly.once
    | some text => exact lawful.once env text orderly.once
  · intro v member
    -- A name that is set is one of the environment or one that the file assigns.
    have found : v.1 ∈ env.map Prod.fst ∨ v.1 ∈ (assignments assigned env envFile).map Prod.fst := by
      have set := mt Environment.lookup_eq_none_iff.1 (not_not.2 (List.mem_map_of_mem member))
      rw [lawful.lookup, Option.or_eq_none_iff, not_and_or] at set
      exact set.imp (fun some => not_not.1 (mt Environment.lookup_eq_none_iff.2 some))
        (fun some => not_not.1 (mt Environment.lookup_eq_none_iff.2 some))
    rcases found with own | read
    · obtain ⟨u, listed, same⟩ := List.mem_map.1 own
      rw [← same]
      exact orderly.named u listed
    · obtain ⟨u, listed, same⟩ := List.mem_map.1 read
      rw [← same]
      exact named u listed

/-- With variables that are written in capitals, each field has what decides it. -/
theorem chosen?_environment (lawful : reader.Lawful assigned) (orderly : env.Orderly)
    (named : Environment.Named (assignments assigned env envFile)) {field : String}
    (known : field ∈ fieldNames) :
    chosen? [(reader.environment env envFile).layer, l] field =
      decisive? env (assignments assigned env envFile) l field := by
  rw [chosen?_cons, (lawful.orderly orderly named).value?_layer known, lawful.stated?,
    chosen?_cons, chosen?_nil, Option.or_none]
  rfl

theorem ofLayers_environment_eq_ok_iff (lawful : reader.Lawful assigned) (orderly : env.Orderly)
    (named : Environment.Named (assignments assigned env envFile)) :
    ofLayers [(reader.environment env envFile).layer, l] = .ok c ↔
      Decided (decisive? env (assignments assigned env envFile) l) c ∧ c.fault? = none := by
  rw [ofLayers_eq_ok_iff,
    decided_congr fun field known => chosen?_environment lawful orderly named known]

theorem ofEnvironment_eq_ofLayers (reader : SettingsReader File) (env : Environment)
    (envFile : Option String) :
    reader.ofEnvironment env envFile = ofLayers [(reader.environment env envFile).layer, []] := by
  refine ofLayers_congr fun field _ => ?_
  rw [chosen?_cons, chosen?_cons, chosen?_cons, SettingLayer.value?_nil, Option.none_or]

theorem ofFile_of_layer? (read : reader.layer? file = some l) :
    reader.ofFile file env envFile = ofLayers [(reader.environment env envFile).layer, l] := by
  rw [ofFile, read]

theorem ofFile_eq_ok_iff (lawful : reader.Lawful assigned) (orderly : env.Orderly)
    (named : Environment.Named (assignments assigned env envFile)) :
    reader.ofFile file env envFile = .ok c ↔ ∃ l, reader.layer? file = some l ∧
      Decided (decisive? env (assignments assigned env envFile) l) c ∧ c.fault? = none := by
  constructor
  · intro loaded
    cases read : reader.layer? file with
    | none =>
      rw [ofFile, read] at loaded
      cases loaded
    | some l =>
      rw [ofFile_of_layer? read] at loaded
      exact ⟨l, rfl, (ofLayers_environment_eq_ok_iff lawful orderly named).1 loaded⟩
  · rintro ⟨l, read, decided⟩
    rw [ofFile_of_layer? read]
    exact (ofLayers_environment_eq_ok_iff lawful orderly named).2 decided

/-- Layers that say the same where nothing comes before them give the same settings. -/
theorem ofLayers_environment_eq (lawful : reader.Lawful assigned) (orderly : env.Orderly)
    (named : Environment.Named (assignments assigned env envFile))
    (named' : Environment.Named (assignments assigned env envFile'))
    (below : ∀ field ∈ fieldNames, Environment.stated? env field = none →
      Environment.stated? (assignments assigned env envFile') field =
        Environment.stated? (assignments assigned env envFile) field)
    (files : ∀ field ∈ fieldNames,
      overriding? env (assignments assigned env envFile) field = none →
        l'.value? field = l.value? field) :
    ofLayers [(reader.environment env envFile').layer, l'] =
      ofLayers [(reader.environment env envFile).layer, l] := by
  refine ofLayers_congr fun field known => ?_
  have same : overriding? env (assignments assigned env envFile') field =
      overriding? env (assignments assigned env envFile) field := by
    rw [overriding?, overriding?]
    cases first : Environment.stated? env field with
    | some v => rfl
    | none => rw [below field known first]
  rw [chosen?_environment lawful orderly named' known,
    chosen?_environment lawful orderly named known, decisive?, decisive?, same]
  cases first : overriding? env (assignments assigned env envFile) field with
  | some v => rfl
  | none => rw [files field known first]

/--
Each field is decided by the first that says anything about it. What others say about it, in files
that can be read, has no effect.
-/
theorem loaded_in_layers (lawful : reader.Lawful assigned) (orderly : env.Orderly)
    (named : Environment.Named (assignments assigned env envFile)) :
    (∀ file c, reader.ofFile file env envFile = .ok c ↔ ∃ l, reader.layer? file = some l ∧
      Decided (decisive? env (assignments assigned env envFile) l) c ∧ c.fault? = none) ∧
    (∀ c, reader.ofEnvironment env envFile = .ok c ↔
      Decided (decisive? env (assignments assigned env envFile) []) c ∧ c.fault? = none) ∧
    ∀ envFile', Environment.Named (assignments assigned env envFile') →
      (∀ field ∈ fieldNames, Environment.stated? env field = none →
        Environment.stated? (assignments assigned env envFile') field =
          Environment.stated? (assignments assigned env envFile) field) →
      reader.ofEnvironment env envFile' = reader.ofEnvironment env envFile ∧
      ∀ file file' l l', reader.layer? file = some l → reader.layer? file' = some l' →
        (∀ field ∈ fieldNames, overriding? env (assignments assigned env envFile) field = none →
          l'.value? field = l.value? field) →
        reader.ofFile file' env envFile' = reader.ofFile file env envFile := by
  refine ⟨fun file c => ofFile_eq_ok_iff lawful orderly named, fun c => ?_, ?_⟩
  · rw [ofEnvironment_eq_ofLayers, ofLayers_environment_eq_ok_iff lawful orderly named]
  · intro envFile' named' below
    refine ⟨?_, fun file file' l l' read read' files => ?_⟩
    · rw [ofEnvironment_eq_ofLayers, ofEnvironment_eq_ofLayers]
      exact ofLayers_environment_eq lawful orderly named named' below fun _ _ _ => rfl
    · rw [ofFile_of_layer? read, ofFile_of_layer? read']
      exact ofLayers_environment_eq lawful orderly named named' below files

end SettingsReader

namespace EnvFile

def linesOf (text : String) : List (List Char) :=
  let cs := Text.withoutMark text.toList
  lines (cs.length + 1) .complete [] cs

/-- What lines assign, up to the first one that makes no sense, whether it takes effect or not. -/
def assigned (env : Environment) : List (List Char) → List (String × String)
  | [] => []
  | line :: rest =>
    match Line.ofChars env line with
    | .nothing => assigned env rest
    | .assignment name value => (name, value) :: assigned (env.setNew name value) rest
    | .nonsense => []

def behind (env : Environment) (line : List Char) : Environment :=
  match Line.ofChars env line with
  | .assignment name value => env.setNew name value
  | _ => env

/-- A line assigns a variable that has a value by then. -/
def Overridden (env : Environment) (line : List Char) : Prop :=
  ∃ name value, Line.ofChars env line = .assignment name value ∧ (env.lookup name).isSome

/-- Lines that are the same but for some that are overridden. -/
inductive Alike : Environment → List (List Char) → List (List Char) → Prop
  | nil (env : Environment) : Alike env [] []
  | line {env : Environment} {ls ls' : List (List Char)} (line : List Char)
      (rest : Alike (behind env line) ls ls') : Alike env (line :: ls) (line :: ls')
  | left {env : Environment} {line : List Char} {ls ls' : List (List Char)}
      (overridden : Overridden env line) (rest : Alike env ls ls') : Alike env (line :: ls) ls'
  | right {env : Environment} {line : List Char} {ls ls' : List (List Char)}
      (overridden : Overridden env line) (rest : Alike env ls ls') : Alike env ls (line :: ls')

variable {env : Environment} {ls ls' : List (List Char)}

theorem load_eq_setLines (env : Environment) (text : String) :
    load env text = setLines env (linesOf text) := rfl

theorem setLines_cons (env : Environment) (line : List Char) (ls : List (List Char)) :
    setLines env (line :: ls) =
      if Line.ofChars env line = .nonsense then env else setLines (behind env line) ls := by
  rw [setLines, behind]
  cases Line.ofChars env line <;> rfl

theorem Overridden.setLines_cons {line : List Char} (overridden : Overridden env line)
    (ls : List (List Char)) : setLines env (line :: ls) = setLines env ls := by
  obtain ⟨name, value, read, present⟩ := overridden
  simp only [setLines, read, Environment.setNew_of_isSome present]

/-- Lines that are overridden leave no trace, not even through lines that refer to variables. -/
theorem Alike.setLines_eq (alike : Alike env ls ls') : setLines env ls = setLines env ls' := by
  induction alike with
  | nil env => rfl
  | line line rest same => rw [setLines_cons, setLines_cons, same]
  | left overridden rest same => rw [overridden.setLines_cons, same]
  | right overridden rest same => rw [overridden.setLines_cons, same]

theorem lookup_setLines (env : Environment) (ls : List (List Char)) (name : String) :
    (setLines env ls).lookup name = (env.lookup name).or ((assigned env ls).lookup name) := by
  induction ls generalizing env with
  | nil => simp [setLines, assigned]
  | cons line ls ih =>
    rw [setLines, assigned]
    cases Line.ofChars env line with
    | nothing => exact ih env
    | nonsense => simp
    | assignment own value =>
      dsimp only
      -- What is set already keeps its value, so the line comes behind the environment.
      rw [ih, Environment.lookup_setNew, Option.or_assoc, List.lookup_cons]
      by_cases same : name = own
      · simp [same]
      · simp [same, beq_eq_false_iff_ne.2 same]

theorem nodup_setNew (once : (env.map Prod.fst).Nodup) (name value : String) :
    ((env.setNew name value).map Prod.fst).Nodup := by
  unfold Environment.setNew
  split
  · exact once
  · rename_i fresh
    have other := Environment.lookup_eq_none_iff.1 (Option.not_isSome_iff_eq_none.1 fresh)
    rw [List.map_append, List.map_singleton, List.nodup_append]
    refine ⟨once, List.nodup_singleton _, fun own member new first => ?_⟩
    rw [List.mem_singleton.1 first]
    exact ne_of_mem_of_not_mem member other

theorem nodup_setLines (once : (env.map Prod.fst).Nodup) (ls : List (List Char)) :
    ((setLines env ls).map Prod.fst).Nodup := by
  induction ls generalizing env with
  | nil => exact once
  | cons line ls ih =>
    rw [setLines]
    cases Line.ofChars env line with
    | nothing => exact ih once
    | nonsense => exact once
    | assignment name value => exact ih (nodup_setNew once name value)

end EnvFile

namespace SettingsReader

theorem lawful_standard :
    standard.Lawful fun env text => EnvFile.assigned env (EnvFile.linesOf text) where
  first env text := EnvFile.lookup_setLines env (EnvFile.linesOf text)
  once _ text once := EnvFile.nodup_setLines once (EnvFile.linesOf text)

/-- Lines for variables that have a value by then may be added, changed and left out. -/
theorem environment_eq_of_alike {env : Environment} {text text' : String}
    (alike : EnvFile.Alike env (EnvFile.linesOf text) (EnvFile.linesOf text')) :
    standard.environment env (some text') = standard.environment env (some text) :=
  alike.setLines_eq.symm

end SettingsReader

namespace Settings

/--
A value that cannot be read takes effect even where it is overridden: in a file of variables it
hides what comes behind it, and a file of settings is refused for it. A variable for a part of a
field stands in the way of the field.
-/
theorem overridden_value_matters :
    ofEnvironment [("SWITCHBOARD_COORDINATOR", "lead")]
      (some "SWITCHBOARD_COORDINATOR=ab\nSWITCHBOARD_TOPIC_PREFIX=t\n") =
        .ok { coordinator := "lead", topicPrefix := "t" } ∧
    ofEnvironment [("SWITCHBOARD_COORDINATOR", "lead")]
      (some "SWITCHBOARD_COORDINATOR=a b\nSWITCHBOARD_TOPIC_PREFIX=t\n") =
        .ok { coordinator := "lead" } ∧
    ofFile ⟨"c.yaml", some "relay_deadline_ms: 7\n"⟩
      [("SWITCHBOARD_RELAY_DEADLINE_MS", "5000")] none = .ok { relayDeadlineMs := 5000 } ∧
    ofFile ⟨"c.yaml", some "relay_deadline_ms: .inf\n"⟩
      [("SWITCHBOARD_RELAY_DEADLINE_MS", "5000")] none = .error unreadable ∧
    ofFile ⟨"c.yaml", some "coordinator: lead\n"⟩ [("SWITCHBOARD_COORDINATOR.X", "b")] none =
      .error (.config "a setting has no value that can be used") := by
  decide +kernel

def ledEnvironment : Environment := [("SWITCHBOARD_COORDINATOR", "lead")]

def ledVariables : String := "SWITCHBOARD_COORDINATOR=x\nSWITCHBOARD_TOPIC_PREFIX=t\n"

def ledFile : SettingsFile := ⟨"c.yaml", some "Coordinator: a\nrelay_deadline_ms: 7\n"⟩

theorem loaded_in_layers_rehearsal :
    (∃ l, ledFile.layer? = some l ∧
      Decided (decisive? ledEnvironment
          [("SWITCHBOARD_COORDINATOR", "x"), ("SWITCHBOARD_TOPIC_PREFIX", "t")] l)
        { coordinator := "lead", topicPrefix := "t", relayDeadlineMs := 7 }) ∧
    Decided (decisive? ledEnvironment
        [("SWITCHBOARD_COORDINATOR", "x"), ("SWITCHBOARD_TOPIC_PREFIX", "t")] [])
      { coordinator := "lead", topicPrefix := "t" } ∧
    ofFile ⟨"c.toml", some "relay_deadline_ms = 7\n"⟩ ledEnvironment
        (some "SWITCHBOARD_TOPIC_PREFIX=t\nSWITCHBOARD_TOPIC_PREFIX=u\n") =
      ofFile ledFile ledEnvironment (some ledVariables) := by
  have orderly : ledEnvironment.Orderly := ⟨by decide, by decide +kernel⟩
  have read : SettingsReader.assignments
      (fun env text => EnvFile.assigned env (EnvFile.linesOf text)) ledEnvironment
        (some ledVariables) =
      [("SWITCHBOARD_COORDINATOR", "x"), ("SWITCHBOARD_TOPIC_PREFIX", "t")] := by
    decide +kernel
  have named : Environment.Named (SettingsReader.assignments
      (fun env text => EnvFile.assigned env (EnvFile.linesOf text)) ledEnvironment
        (some ledVariables)) := by
    rw [read]
    decide +kernel
  obtain ⟨file, environment, same⟩ :=
    SettingsReader.loaded_in_layers SettingsReader.lawful_standard orderly named
  rw [read] at file environment same
  refine ⟨?_, ?_, ?_⟩
  · obtain ⟨l, read, decided, -⟩ := (file ledFile
      { coordinator := "lead", topicPrefix := "t", relayDeadlineMs := 7 }).1 (by decide +kernel)
    exact ⟨l, read, decided⟩
  · exact ((environment { coordinator := "lead", topicPrefix := "t" }).1 (by decide +kernel)).1
  · exact (same (some "SWITCHBOARD_TOPIC_PREFIX=t\nSWITCHBOARD_TOPIC_PREFIX=u\n")
      (by decide +kernel) (by decide +kernel)).2 ledFile _
      [("Coordinator", .text "a"), ("relay_deadline_ms", .int 7)] [("relay_deadline_ms", .int 7)]
      (by decide +kernel) (by decide +kernel) (by decide +kernel)

end Settings

end RollCall
