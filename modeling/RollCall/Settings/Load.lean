import RollCall.Settings.Document
import RollCall.Settings.EnvFile
import RollCall.Text.Mark

set_option autoImplicit false

/-!
Loading settings: from a YAML text, from the environment, and from a file with the environment on
top. A file of variables is read into the environment first and changes no variable that is set.
-/
namespace RollCall

/-- A file by its name, with its text if it exists. -/
structure SettingsFile where
  name : String
  text : Option String

namespace SettingsFile

/-- What a file says about settings; it must exist and be in a format that is known. -/
def layer? (f : SettingsFile) : Option SettingLayer := do
  let text ← f.text
  let format ← SettingsFormat.ofName? f.name
  format.layer? (String.ofList (Text.withoutMark text.toList))

end SettingsFile

/-- How files are read: those of settings, and those of variables into an environment. -/
structure SettingsReader (File : Type) where
  /-- What a file says about settings, if it can be read. -/
  layer? : File → Option SettingLayer
  /-- The environment with the variables of a text. -/
  withVariables : Environment → String → Environment

namespace Settings

def unreadable : Error := .config "the settings cannot be read"

def ofYaml (text : String) : Except Error Settings :=
  match SettingLayer.ofYaml? text with
  | some l => ofLayers [l]
  | none => .error unreadable

end Settings

namespace SettingsReader

/-- Files in the formats that are told by their names, and the lines of files of variables. -/
def standard : SettingsReader SettingsFile := ⟨SettingsFile.layer?, EnvFile.load⟩

variable {File : Type}

/-- The environment with the variables of a file, if there is one. -/
def environment (reader : SettingsReader File) (env : Environment) (envFile : Option String) :
    Environment :=
  match envFile with
  | some text => reader.withVariables env text
  | none => env

def ofEnvironment (reader : SettingsReader File) (env : Environment) (envFile : Option String) :
    Except Error Settings :=
  Settings.ofLayers [(reader.environment env envFile).layer]

def ofFile (reader : SettingsReader File) (file : File) (env : Environment)
    (envFile : Option String) : Except Error Settings :=
  match reader.layer? file with
  | some l => Settings.ofLayers [(reader.environment env envFile).layer, l]
  | none => .error Settings.unreadable

end SettingsReader

namespace Settings

def ofEnvironment : Environment → Option String → Except Error Settings :=
  SettingsReader.standard.ofEnvironment

def ofFile : SettingsFile → Environment → Option String → Except Error Settings :=
  SettingsReader.standard.ofFile

end Settings

end RollCall
