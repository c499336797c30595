import RecordFilter.CommandLine
import RecordFilter.Config
import RecordFilter.Dataset
import RecordFilter.Listing
import RecordFilter.Log
import RecordFilter.Store
import RecordFilter.Text.Terminal
import RecordFilter.Token

/-! # The program

What each command does with the files at hand, and the text that it gives out. Nothing is given
out before a command has come to its end, so that a failure leaves no text behind. -/

namespace RecordFilter

/-! ## Failures

Why a run ends without a result, and how it tells so. -/

/-- The reason for which a run fails. -/
inductive Failure where
  | filter (error : FilterError)
  | page (error : PageError)
  | dataset (error : StorageError)
  | config (error : ConfigError)
  deriving DecidableEq

namespace Failure

/-- The message shown for the failure. -/
def message : Failure → String
  | .filter e => e.message
  | .page e => "pagination error: " ++ e.message
  | .dataset e => "dataset error: " ++ e.message
  | .config e => "configuration error: " ++ e.message

/-- The name of the kind of failure. -/
def code : Failure → String
  | .filter _ => "FILTER_ERROR"
  | .page _ => "PAGINATION_ERROR"
  | .dataset _ => "DATASET_ERROR"
  | .config _ => "CONFIG_ERROR"

/-- The exit status of a run that fails. -/
def exitStatus : Failure → UInt32
  | .filter _ | .page _ => 1
  | .dataset _ | .config _ => 5

/-- The failure as JSON. -/
def json (f : Failure) : Json :=
  .ofMembers [("error", .ofMembers [("code", .ofString f.code), ("message", .ofString f.message)])]

end Failure

/-! ## Help

The overview of commands and options that is shown when no command is given. Its styles, and what
else a terminal would take as commands, are left out. -/

/-- The column in which the descriptions of the options stand. -/
def helpColumn : Nat := 21

/-- A text in the column for descriptions: each of its further lines begins there as well. -/
def inHelpColumn (cs : List Char) : List Char :=
  cs.flatMap fun c => if c = '\n' then '\n' :: List.replicate helpColumn ' ' else [c]

/-- The overview up to the value that stands in for the option for the dataset. -/
def helpOpening : String :=
  "wq - Query users and joggings with where-clause filters\n\n" ++
  "Usage: wq [OPTIONS] [COMMAND]\n\n" ++
  "Commands:\n" ++
  "  users        List users\n" ++
  "  joggings     List joggings\n" ++
  "  parse        Parse a filter and print its structure\n" ++
  "  config       View and manage configuration\n" ++
  "  completions  Generate shell completions\n" ++
  "  help         Print this message or the help of the given subcommand(s)\n\n" ++
  "Options:\n" ++
  "  -v, --verbose      Verbose output (show debug information)\n" ++
  "  -q, --quiet        Quiet mode (errors only)\n" ++
  "      --json         Output JSON instead of tables\n" ++
  "      --no-color     Disable colors in output\n" ++
  "      --data <DATA>  Dataset file (default: from config, then " ++
  "~/.local/share/wq/dataset.json) [env: WQ_DATA="

/-- A word of the overview that is to be written as it stands. -/
def helpWord (word : String) : List Char :=
  Style.bold.paint true word.toList

/-- The overview behind the value for the dataset, in its styles: a sequence that the value leaves
open ends where the next style begins. -/
def helpClosing : List Char :=
  "]\n  ".toList ++ helpWord "-h" ++ ", ".toList ++ helpWord "--help" ++
  "         Print help\n  ".toList ++ helpWord "-V" ++ ", ".toList ++ helpWord "--version" ++
  "      Print version\n".toList

/-- The overview, with the value that stands in for the option for the dataset. -/
def helpText (data : Option String) : String :=
  helpOpening ++ String.ofList (visible (inHelpColumn (data.getD "").toList ++ helpClosing))

/-- The name of the program and its version. -/
def versionText : String := "wq 0.1.0\n"

/-! ## The program -/

/-- A part of a run: it may use files, it reports events, and it may fail. -/
abbrev Action (m : Type → Type) := ExceptT Failure (StateT (List Event) m)

namespace Action

variable {m : Type → Type} [Monad m]

/-- Reports events. -/
def report (events : List Event) : Action m Unit :=
  modify (· ++ events)

/-- A result, or a failure for its error. -/
def ofExcept {ε α : Type} (failure : ε → Failure) : Except ε α → Action m α
  | .ok a => return a
  | .error e => throw (failure e)

/-- Part of a run that has errors of its own. -/
def attempt {ε α : Type} (failure : ε → Failure) (part : ExceptT ε m α) : Action m α := do
  ofExcept failure (← (part.run : m (Except ε α)))

/-- The result of a run and the events up to it. -/
def outcome {α : Type} (action : Action m α) : m (Except Failure α × List Event) :=
  (ExceptT.run action).run []

end Action

/-! ### Settings -/

/-- What the options and the configuration settle for a command. -/
structure Settings where
  json : Bool
  colors : Bool
  quiet : Bool
  dataPath : Option Path
  deriving DecidableEq

namespace Settings

/-- The settings of a command line. -/
def ofCommandLine (line : CommandLine) : Settings :=
  ⟨line.json, !line.noColor, line.quiet, line.data⟩

/-- The settings with the choices of the configuration where the command line makes none. -/
def withConfig (s : Settings) (c : Config) : Settings :=
  { s with colors := s.colors && c.color.getD true, dataPath := s.dataPath.or c.dataPath }

/-- A text that is given out as JSON, or else for reading unless the run is to be quiet. -/
def output (s : Settings) (json : String) (text : String) : String :=
  if s.json then json ++ "\n" else if s.quiet then "" else text

end Settings

/-! ### Listing records -/

section Listing

variable {m : Type → Type} [Monad m] [Files m]

/-- The events of reading a filter. -/
def readingEvents (filter : String) : List Event :=
  match tokenize filter with
  | .error _ => []
  | .ok tokens =>
    .tokenized tokens.length ::
      match Expr.parse filter with
      | .error _ => []
      | .ok e => [.parsed e]

/-- The events of reading a filter for the records of a table. -/
def compilingEvents (table : FieldTable) (filter : String) : List Event :=
  readingEvents filter ++
    match Predicate.ofText .standard table filter with
    | .error _ => []
    | .ok p => [.compiled table.record p]

/-- The records that satisfy a filter and an extra predicate, and of these one page. -/
def search {α : Type} [Record α] (records : List α) (filter : Option String) (page : Option Page)
    (extra : Option Predicate) : Action m (List α) := do
  let table := Record.table α
  match filter with
  | some text => Action.report (compilingEvents table text)
  | none => pure ()
  let query ← Action.ofExcept .filter (Query.ofFilter .standard table filter page extra)
  let found := query.run records
  Action.report [.running table.record query.predicate.isSome query.window,
    .executed records.length found.length]
  return found

/-- The configuration that holds for the environment. -/
def loadConfig (e : Environment) : Action m Config := do
  let document ← Action.attempt .config (Config.load e.configPath)
  if Config.currentVersion < document.version then
    Action.report [.newerConfig document.version]
  return document.config

/-- The dataset that the settings choose, or else the one at the usual place. -/
def loadDataset (e : Environment) (s : Settings) : Action m Dataset := do
  let path := s.dataPath.getD e.dataPath
  let present ← Files.isPresent path
  if !present then Action.report [.datasetMissing path]
  let d ← Action.attempt .dataset (Dataset.loadOrEmpty path)
  -- Where something is at the path, the dataset has been read from it by now.
  if present then Action.report [.datasetLoaded path d.users.length d.joggings.length]
  return d

/-- Lists the records of one kind that a request asks for. -/
def listRecords {α : Type} [Record α] (e : Environment) (s : Settings)
    (records : Dataset → List α) (extra : Option Predicate) (print : List α → String)
    (r : ListingRequest) : Action m String := do
  let page ← Action.ofExcept .page (Page.ofRequest r.page r.perPage)
  let d ← loadDataset e s
  let found ← search (records d) r.filter page extra
  return print found

/-- Lists users. -/
def listUsers (e : Environment) (s : Settings) (r : ListingRequest) : Action m String :=
  listRecords e s Dataset.users none
    (fun found => s.output (User.listingJson found) (User.listing s.colors found)) r

/-- Lists sessions, of all users or of one. -/
def listJoggings (e : Environment) (s : Settings) (owner : Option String) (r : ListingRequest) :
    Action m String :=
  listRecords e s Dataset.joggings (owner.map Jogging.ownedBy)
    (fun found => s.output (Jogging.listingJson found) (Jogging.listing s.colors found)) r

end Listing

/-! ### Showing how a filter is read -/

/-- What can be shown of a filter: its grouping, and what it means for a kind of record. -/
structure Preview where
  expression : String
  predicate : Option String
  deriving DecidableEq

/-- The fields of the records of a kind. -/
def RecordKind.table : RecordKind → FieldTable
  | .user => Record.table User
  | .jogging => Record.table Jogging

namespace Preview

/-- The preview of a filter. Without a kind of record its literals must still denote values. -/
def ofFilter (filter : String) (kind : Option RecordKind) : Except FilterError Preview := do
  let e ← Expr.parse filter
  match kind with
  | some kind =>
    let p ← Predicate.ofText .standard kind.table filter
    return ⟨e.display, some p.display⟩
  | none =>
    match e.firstInvalid with
    | some error => throw error
    | none => return ⟨e.display, none⟩

/-- The preview as JSON. -/
def json (p : Preview) : Json :=
  .ofMembers ([("expression", .ofString p.expression)]
    ++ Json.optionalMember "predicate" p.predicate)

/-- A line with a label in front. -/
def labeled (colors : Bool) (label text : String) : String :=
  String.ofList (Style.dimmed.paint colors label.toList) ++ " " ++ text ++ "\n"

/-- The preview for reading. -/
def text (colors : Bool) (p : Preview) : String :=
  labeled colors "Expression:" p.expression ++
    match p.predicate with
    | some predicate => labeled colors "Predicate:" predicate
    | none => ""

end Preview

/-- Shows how a filter is read. -/
def showFilter {m : Type → Type} [Monad m] (s : Settings) (filter : String)
    (kind : Option RecordKind) : Action m String := do
  Action.report (readingEvents filter)
  match kind, Expr.parse filter with
  | some kind, .ok _ => Action.report (compilingEvents kind.table filter)
  | _, _ => pure ()
  let p ← Action.ofExcept .filter (Preview.ofFilter filter kind)
  return s.output p.json.text (p.text s.colors)

/-! ### The configuration -/

/-- The settings of a configuration as JSON. -/
def Config.json (c : Config) : Json :=
  .ofMembers (Json.optionalMember "data_path" (c.dataPath.map Path.text)
    ++ [("output", .ofMembers (match c.color with
        | some color => [("color", .bool color)]
        | none => [])),
      ("version", .integer Config.currentVersion)])

/-- The settings of a configuration for reading. -/
def Config.settingLines (c : Config) : String :=
  "Settings:\n" ++
    (match c.dataPath with
    | some p => "  data_path: " ++ p.text ++ "\n"
    | none => "") ++
    "\n[output]\n" ++
    (match c.color with
    | some color => "  color: " ++ Config.flagText color ++ "\n"
    | none => "")

/-- The headline over a configuration. -/
def configHeadline (colors : Bool) : String :=
  String.ofList (Style.bold.paint colors (Style.green.paint colors "Configuration".toList))

section Configuration

variable {m : Type → Type} [Monad m] [Files m]

/-- Shows the configuration. -/
def showConfig (e : Environment) (s : Settings) : Action m String := do
  let c ← loadConfig e
  let path := e.configPath
  let present ← Files.isPresent path
  let json := Json.ofMembers [("config", c.json), ("exists", .bool present),
    ("path", .ofString path.text)]
  let settings :=
    if present then c.settingLines
    else "(No config file exists. Run 'wq config init' to create one.)\n"
  return s.output json.text
    (configHeadline s.colors ++ "\n\nFile: " ++ path.text ++ "\nExists: "
      ++ Config.flagText present ++ "\n\n" ++ settings)

/-- Tells where the configuration is, even if the run is to be quiet. -/
def showConfigPath (e : Environment) (s : Settings) : Action m String := do
  let path := e.configPath
  let present ← Files.isPresent path
  let json := Json.ofMembers [("exists", .bool present), ("path", .ofString path.text)]
  return if s.json then json.text ++ "\n" else path.text ++ "\n"

/-- Makes a configuration to be filled in, unless there is one. -/
def initConfig (e : Environment) (s : Settings) : Action m String := do
  let path := e.configPath
  let created ← Action.attempt .config (Config.init path)
  let json := Json.ofMembers [("path", .ofString path.text),
    ("status", .ofString (if created then "created" else "exists"))]
  return s.output json.text
    ((if created then "Created default config at: " else "Config already exists at: ")
      ++ path.text ++ "\n")

/-- Makes a choice in the configuration. -/
def setConfig (e : Environment) (s : Settings) (key value : String) : Action m String := do
  let c ← loadConfig e
  let path := e.configPath
  let c ← Action.ofExcept (fun error => .config (.setting error)) (c.set key value)
  Action.attempt .config (c.save path)
  let json := Json.ofMembers [("key", .ofString key), ("path", .ofString path.text),
    ("status", .ofString "success"), ("value", .ofString value)]
  return s.output json.text ("Set " ++ key ++ " = " ++ value ++ "\n")

/-- Carries out a command on the configuration. -/
def runConfig (e : Environment) (s : Settings) : ConfigCommand → Action m String
  | .show => showConfig e s
  | .path => showConfigPath e s
  | .init => initConfig e s
  | .set key value => setConfig e s key value

/-! ### Runs -/

/-- The settings of a run once the configuration is known. -/
def resolveSettings (e : Environment) (line : CommandLine) : Action m Settings := do
  let s := (Settings.ofCommandLine line).withConfig (← loadConfig e)
  Action.report [.resolved s.dataPath]
  return s

/-- Carries out a command line. The commands on the configuration do not need it to be sound. The
scripts for shells, which complete command lines, are left out. -/
def CommandLine.run (e : Environment) (line : CommandLine) : Action m String :=
  match line.command with
  | none => return helpText e.data
  | some (.config command) => runConfig e (.ofCommandLine line) command
  | some (.completions _) => return ""
  | some (.users r) => do listUsers e (← resolveSettings e line) r
  | some (.joggings owner r) => do listJoggings e (← resolveSettings e line) owner r
  | some (.parse filter kind) => do showFilter (← resolveSettings e line) filter kind

end Configuration

end RecordFilter
