import RecordFilter.Files
import RecordFilter.Text.Basic
import RecordFilter.Text.Lowercase
import RecordFilter.Toml.Reader

/-! # The configuration

Settings that hold for every run, and their form as a TOML document. A document names the version
of its form; one without a name has the only version there is so far. Names that do not belong to
a setting are skipped. -/

namespace RecordFilter

/-- The settings, as far as they are chosen. -/
structure Config where
  dataPath : Option Path
  color : Option Bool
  deriving DecidableEq

namespace Config

/-- The configuration without any choice. -/
def unset : Config :=
  ⟨none, none⟩

/-- The version of the form that is written. -/
def currentVersion : Nat := 1

/-- A document's configuration and the version of its form. -/
structure Document where
  version : Nat
  config : Config
  deriving DecidableEq

/-! ### Documents -/

/-- The version that a document names, a number of 32 bits. -/
def versionOf? (t : TomlTable) : Option Nat :=
  match t.lookup "version" with
  | none => some currentVersion
  | some (.integer n) => if 0 ≤ n ∧ n.toNat < UInt32.size then some n.toNat else none
  | some _ => none

/-- The path of the dataset in a document. -/
def dataPathOf? (t : TomlTable) : Option (Option Path) :=
  match t.lookup "data_path" with
  | none => some none
  | some (.text s) => some (some ⟨s⟩)
  | some _ => none

/-- Whether a document asks for colors. The table for output may be a list of its only setting,
and a date or a time stands for a table without any. -/
def colorOf? (t : TomlTable) : Option (Option Bool) :=
  match t.lookup "output" with
  | none => some none
  | some (.table _ output) =>
    match output.lookup "color" with
    | none => some none
    | some (.flag color) => some (some color)
    | some _ => none
  | some (.array (.flag color :: _)) => some (some color)
  | some .moment => some none
  | some _ => none

/-- The document that a text spells. -/
def Document.read? (s : String) : Option Document := do
  let t ← TomlTable.read? s
  let version ← versionOf? t
  let dataPath ← dataPathOf? t
  let color ← colorOf? t
  return ⟨version, ⟨dataPath, color⟩⟩

/-- The spelling of a truth value. -/
def flagText (b : Bool) : String :=
  if b then "true" else "false"

/-- The line that sets the path of the dataset. -/
def dataPathLine (c : Config) : String :=
  match c.dataPath with
  | some p => "data_path = " ++ String.ofList (Toml.quoted p.text) ++ "\n"
  | none => ""

/-- The line that sets whether there are colors. -/
def colorLine (c : Config) : String :=
  match c.color with
  | some color => "color = " ++ flagText color ++ "\n"
  | none => ""

/-- The document with a configuration. -/
def text (c : Config) : String :=
  "version = " ++ String.ofList (numeral currentVersion) ++ "\n" ++ c.dataPathLine
    ++ "\n[output]\n" ++ c.colorLine

/-- The document that is written for a user to fill in. -/
def template : String :=
  "# wq - where-clause query CLI configuration\n\n" ++
  "# Config schema version (do not modify)\n" ++
  "version = 1\n\n" ++
  "# Dataset file (can also use --data or the WQ_DATA env var)\n" ++
  "# data_path = \"/path/to/dataset.json\"\n\n" ++
  "# Output preferences\n" ++
  "[output]\n" ++
  "# color = true              # Enable colors\n"

/-! ### Settings by name -/

/-- Why a setting cannot be made. -/
inductive SettingError where
  | unknownKey (key : String)
  | notAFlag (value : String)
  deriving DecidableEq

/-- The truth value that a word stands for, in any case. -/
def flag? (s : String) : Option Bool :=
  let word := lowercase s
  if ["true", "yes", "1", "on"].contains word then some true
  else if ["false", "no", "0", "off"].contains word then some false
  else none

/-- The configuration with another value for the setting of this name. -/
def set (c : Config) (key value : String) : Except SettingError Config :=
  if key = "data_path" then .ok { c with dataPath := some ⟨value⟩ }
  else if key = "output.color" then
    match flag? value with
    | some color => .ok { c with color := some color }
    | none => .error (.notAFlag value)
  else .error (.unknownKey key)

end Config

/-! ## Stored configurations

Loading and saving the configuration. Where there is no file, nothing is chosen. -/

/-- Why the configuration cannot be used or changed. -/
inductive ConfigError where
  | unreadable (reason : FileError)
  | malformed
  | noDirectory (reason : FileError)
  | unwritable (reason : FileError)
  | notCreated (reason : FileError)
  | setting (error : Config.SettingError)
  deriving DecidableEq

/-- The message shown for the error. Why a text is no configuration is left out. -/
def ConfigError.message : ConfigError → String
  | .unreadable reason => "Failed to read config: " ++ reason.message
  | .malformed => "Failed to parse config"
  | .noDirectory reason => "Failed to create config directory: " ++ reason.message
  | .unwritable reason => "Failed to write config: " ++ reason.message
  | .notCreated reason => "Failed to create config file: " ++ reason.message
  | .setting (.unknownKey key) =>
    "Unknown config key '" ++ key ++ "'. Valid keys: data_path, output.color"
  | .setting (.notAFlag value) =>
    "Invalid boolean value '" ++ value ++ "'. Use true/false, yes/no, 1/0, or on/off"

namespace Config

variable {m : Type → Type} [Monad m] [Files m]

/-- The document at a path. -/
def load (p : Path) : ExceptT ConfigError m Document := do
  if ← Files.isPresent p then
    match ← Files.readText p with
    | .ok text =>
      match Document.read? text with
      | some document => return document
      | none => throw .malformed
    | .error reason => throw (.unreadable reason)
  else return ⟨currentVersion, unset⟩

/-- Writes a text to a path, in a directory that is made if need be. -/
def write (p : Path) (text : String) (failed : FileError → ConfigError) :
    ExceptT ConfigError m Unit := do
  match p.parent? with
  | some parent =>
    match ← Files.ensurePath parent with
    | .ok () => pure ()
    | .error reason => throw (.noDirectory reason)
  | none => pure ()
  match ← Files.writeText p text with
  | .ok () => return ()
  | .error reason => throw (failed reason)

/-- Stores a configuration at a path. -/
def save (p : Path) (c : Config) : ExceptT ConfigError m Unit :=
  write p c.text .unwritable

/-- Puts the template at a path where nothing is, and tells whether it did. -/
def init (p : Path) : ExceptT ConfigError m Bool := do
  if ← Files.isPresent p then return false
  write p template .notCreated
  return true

end Config

end RecordFilter
