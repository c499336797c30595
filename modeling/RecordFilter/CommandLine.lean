import RecordFilter.Files

/-! # What a run is asked for

Command lines, and the environment in which they are read. -/

namespace RecordFilter

/-! ## The environment

The variables of the environment that the program looks at, and the paths of its files that
follow from them. -/

/-- The values of the variables, as far as they are set. The home directory is always known. -/
structure Environment where
  configFile : Option String
  data : Option String
  configHome : Option String
  dataHome : Option String
  home : String
  logFilter : Option String
  deriving DecidableEq

namespace Environment

/-- The environment with the given variables. -/
def ofVariables (value? : String → Option String) : Environment where
  configFile := value? "WQ_CONFIG"
  data := value? "WQ_DATA"
  configHome := value? "XDG_CONFIG_HOME"
  dataHome := value? "XDG_DATA_HOME"
  home := (value? "HOME").getD ""
  logFilter := value? "RUST_LOG"

/-- The name of the program's own directory among those of other programs. -/
def directoryName : String := "wq"

/-- The path of the configuration. -/
def configPath (e : Environment) : Path :=
  match e.configFile, e.configHome with
  | some file, _ => ⟨file⟩
  | none, some directory => ((Path.mk directory).join directoryName).join "config.toml"
  | none, none => (((Path.mk e.home).join ".config").join directoryName).join "config.toml"

/-- The directory for data. One that is not absolute is not used. -/
def dataDirectory (e : Environment) : Path :=
  match e.dataHome with
  | some directory =>
    if (Path.mk directory).isAbsolute then ⟨directory⟩ else (Path.mk e.home).join ".local/share"
  | none => (Path.mk e.home).join ".local/share"

/-- The path of the dataset, if no other is chosen. -/
def dataPath (e : Environment) : Path :=
  (e.dataDirectory.join directoryName).join "dataset.json"

end Environment

/-! ## Command lines

What a command line can ask for, and how it can be wrong. -/

/-- The kinds of records that a filter can be checked against. -/
inductive RecordKind where
  | user
  | jogging
  deriving DecidableEq

/-- The shells for which completions can be asked. -/
inductive Shell where
  | bash
  | zsh
  | fish
  | powershell
  deriving DecidableEq

/-- What can be done with the configuration. -/
inductive ConfigCommand where
  | show
  | path
  | init
  | set (key value : String)
  deriving DecidableEq

/-- Which records a listing shows. -/
structure ListingRequest where
  filter : Option String
  page : Option Int64
  perPage : Option Int64
  deriving DecidableEq

/-- What a command line asks for. -/
inductive Command where
  | users (request : ListingRequest)
  | joggings (owner : Option String) (request : ListingRequest)
  | parse (filter : String) (kind : Option RecordKind)
  | config (command : ConfigCommand)
  | completions (shell : Shell)
  deriving DecidableEq

/-- A command, if one is given, and the options that go with any command. -/
structure CommandLine where
  verbose : Bool
  quiet : Bool
  json : Bool
  noColor : Bool
  data : Option Path
  command : Option Command
  deriving DecidableEq

/-- Why the words of a command line are not carried out. -/
inductive UsageError where
  /-- An option or a word that is not expected. -/
  | unknownArgument
  /-- Options that exclude each other, or one that is given twice. -/
  | conflict
  /-- A value that is not a 64-bit number. -/
  | notANumber
  /-- A value that is missing, empty or not in the list. -/
  | invalidValue
  | unknownCommand
  | missingArgument
  /-- A value for an option that takes none. -/
  | unexpectedValue
  /-- The options that ask for help. -/
  | helpAsked
  /-- The options that ask for the version. -/
  | versionAsked
  deriving DecidableEq

/-- The message shown for the error. -/
def UsageError.message : UsageError → String
  | .unknownArgument => "unexpected argument found"
  | .conflict => "an argument cannot be used multiple times or with another one"
  | .notANumber => "invalid number for an argument"
  | .invalidValue => "invalid value for an argument"
  | .unknownCommand => "unrecognized subcommand"
  | .missingArgument => "the required arguments were not provided"
  | .unexpectedValue => "unexpected value for an argument"
  | .helpAsked => "help"
  | .versionAsked => "version"

end RecordFilter
