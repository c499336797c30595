import RecordFilter.CommandLine
import RecordFilter.Text.Basic

/-! # Reading command lines

The tree of commands, and how the words of a command line are read along it. -/

namespace RecordFilter

/-! ## The commands and their arguments

Commands form a tree, in which the program itself is the root. Each has options, operands that
stand by themselves, and commands below it. The options of the root belong to every command. -/

/-- A command in the tree. -/
inductive Branch where
  | root
  | users
  | joggings
  | parse
  | config
  | configShow
  | configPath
  | configInit
  | configSet
  | completions
  deriving DecidableEq

/-- The options and operands of all commands. -/
inductive Argument where
  | verbose
  | quiet
  | json
  | noColor
  | data
  | help
  | version
  | filter
  | owner
  | page
  | perPage
  | record
  | expression
  | key
  | value
  | shell
  deriving DecidableEq

/-- What may be written as the value of an argument. -/
inductive ValueKind where
  | text
  | path
  | number
  | choice (names : List String)
  deriving DecidableEq

/-! ### Values -/

namespace RecordKind

/-- The name of the kind. -/
def name : RecordKind → String
  | .user => "user"
  | .jogging => "jogging"

/-- All kinds. -/
def all : List RecordKind := [.user, .jogging]

/-- The kind of this name. -/
def ofName? (s : String) : Option RecordKind :=
  all.find? (·.name = s)

end RecordKind

namespace Shell

/-- The name of the shell. -/
def name : Shell → String
  | .bash => "bash"
  | .zsh => "zsh"
  | .fish => "fish"
  | .powershell => "powershell"

/-- All shells. -/
def all : List Shell := [.bash, .zsh, .fish, .powershell]

/-- The shell of this name. -/
def ofName? (s : String) : Option Shell :=
  all.find? (·.name = s)

end Shell

namespace ValueKind

/-- The reason why a text is not a value of this kind, if there is one. -/
def fault? (kind : ValueKind) (s : String) : Option UsageError :=
  match kind with
  | .text => none
  | .path => if s.isEmpty then some .invalidValue else none
  | .number => if (readInt64? s.toList).isNone then some .notANumber else none
  | .choice names => if names.contains s then none else some .invalidValue

end ValueKind

namespace Argument

/-- What the argument takes as its value, if it takes one. -/
def valueKind? : Argument → Option ValueKind
  | .verbose | .quiet | .json | .noColor | .help | .version => none
  | .data => some .path
  | .page | .perPage => some .number
  | .record => some (.choice (RecordKind.all.map RecordKind.name))
  | .shell => some (.choice (Shell.all.map Shell.name))
  | .filter | .owner | .expression | .key | .value => some .text

/-- The name of the option behind two dashes, if the argument is an option. -/
def longName? : Argument → Option String
  | .verbose => some "verbose"
  | .quiet => some "quiet"
  | .json => some "json"
  | .noColor => some "no-color"
  | .data => some "data"
  | .help => some "help"
  | .version => some "version"
  | .filter => some "filter"
  | .owner => some "owner"
  | .page => some "page"
  | .perPage => some "per-page"
  | .record => some "record"
  | .expression | .key | .value | .shell => none

/-- The letter of the option behind one dash, if it has one. -/
def letter? : Argument → Option Char
  | .verbose => some 'v'
  | .quiet => some 'q'
  | .help => some 'h'
  | .version => some 'V'
  | .filter => some 'f'
  | .owner => some 'o'
  | .record => some 'r'
  | _ => none

/-- Whether a negative number is taken as the value of the option rather than as letters. -/
def takesNegative (a : Argument) : Bool :=
  a.valueKind? = some .number

end Argument

/-! ### The tree -/

namespace Branch

/-- The options that every command has. -/
def commonOptions : List Argument :=
  [.verbose, .quiet, .json, .noColor, .data, .help, .version]

/-- The options of the command. -/
def options : Branch → List Argument
  | .users => [.filter, .page, .perPage] ++ commonOptions
  | .joggings => [.filter, .owner, .page, .perPage] ++ commonOptions
  | .parse => .record :: commonOptions
  | _ => commonOptions

/-- The operands of the command, all of which must be given. -/
def operands : Branch → List Argument
  | .parse => [.expression]
  | .configSet => [.key, .value]
  | .completions => [.shell]
  | _ => []

/-- The commands below the command, with their names. -/
def below : Branch → List (String × Branch)
  | .root => [("users", .users), ("u", .users), ("joggings", .joggings), ("j", .joggings),
      ("parse", .parse), ("config", .config), ("completions", .completions)]
  | .config => [("show", .configShow), ("path", .configPath), ("init", .configInit),
      ("set", .configSet)]
  | _ => []

/-- The command below with this name. -/
def child? (b : Branch) (name : String) : Option Branch :=
  b.below.lookup name

/-- The name of the command for help, which stands beside the commands below. -/
def helpName : String := "help"

/-- Whether the name is one that can follow the command. -/
def isChildName (b : Branch) (name : String) : Bool :=
  (b.child? name).isSome || (!b.below.isEmpty && name = helpName)

/-- The option with a name. -/
def option? (b : Branch) (name : String) : Option Argument :=
  b.options.find? (·.longName? = some name)

/-- The option with a letter. -/
def optionOfLetter? (b : Branch) (letter : Char) : Option Argument :=
  b.options.find? (·.letter? = some letter)

end Branch

/-! ## Reading command lines

The words of a command line are read from left to right. Options may stand anywhere, and two
dashes end them. A word that names a command below the current one hands the words behind it on
to that command. Each command judges its own words, after the commands below it: an option that
every command has can be given to several of them, and then the innermost counts. A variable that
stands in for an option does so at each command, and counts only if the option is given to none. -/

/-- What has been read of the words of one command. -/
structure Scan where
  /-- The options and operands with their values; an option without a value has an empty one. -/
  given : List (Argument × String)
  /-- The option or operand that was read last, with its value if that has been read. -/
  pending : Option (Argument × Option String)
  /-- The number of operands read. -/
  operands : Nat
  /-- Whether two dashes have been read. -/
  trailing : Bool
  deriving DecidableEq

namespace Scan

/-- The state before the first word. -/
def start : Scan :=
  ⟨[], none, 0, false⟩

/-- Whether an option waits for its value. -/
def isWaiting (s : Scan) : Bool :=
  match s.pending with
  | some (_, none) => true
  | _ => false

/-- Adds an argument with its value. -/
def put (s : Scan) (a : Argument) (value : String) : Except UsageError Scan :=
  if (s.given.lookup a).isSome then .error .conflict
  else
    match a.valueKind?.bind (·.fault? value) with
    | some e => .error e
    | none => .ok { s with given := s.given ++ [(a, value)] }

/-- Adds the pending argument. -/
def settle (s : Scan) : Except UsageError Scan :=
  match s.pending with
  | none => .ok s
  | some (_, none) => .error .invalidValue
  | some (a, some value) => { s with pending := none }.put a value

/-- Adds an argument behind the pending one. -/
def give (s : Scan) (a : Argument) (value : String) : Except UsageError Scan := do
  (← s.settle).put a value

/-- Adds an option without a value. -/
def raise (s : Scan) (a : Argument) : Except UsageError Scan :=
  match a with
  | .help => s.settle.bind fun _ => .error .helpAsked
  | .version => s.settle.bind fun _ => .error .versionAsked
  | a => s.give a ""

/-- Makes an argument the pending one. -/
def await (s : Scan) (a : Argument) (value : Option String) : Except UsageError Scan := do
  return { ← s.settle with pending := some (a, value) }

/-! ### Words -/

/-- Reads the letters behind a single dash. A letter that takes a value takes the rest of the
word, without an equals sign in front, or else the next word. -/
def readLetters (b : Branch) (s : Scan) : List Char → Except UsageError Scan
  | [] => .ok s
  | c :: cs =>
    match b.optionOfLetter? c with
    | none => .error .unknownArgument
    | some a =>
      if a.valueKind?.isSome then
        match cs with
        | [] => s.await a none
        | '=' :: value => s.give a (String.ofList value)
        | value => s.give a (String.ofList value)
      else do
        readLetters b (← s.raise a) cs

/-- Reads the word behind two dashes: the name of an option, and behind an equals sign its
value. -/
def readOption (b : Branch) (s : Scan) (word : List Char) : Except UsageError Scan :=
  match b.option? (String.ofList (word.takeWhile (· ≠ '='))) with
  | none => .error .unknownArgument
  | some a =>
    match a.valueKind?.isSome, word.dropWhile (· ≠ '=') with
    | true, _ :: value => s.give a (String.ofList value)
    | true, [] => s.await a none
    | false, _ :: _ => .error .unexpectedValue
    | false, [] => s.raise a

/-- Reads a word that stands by itself. -/
def readOperand (b : Branch) (s : Scan) (word : String) : Except UsageError Scan :=
  match b.operands[s.operands]? with
  | some a => return { ← s.await a (some word) with operands := s.operands + 1 }
  | none =>
    if b.below.isEmpty || (s.trailing && b.isChildName word) then .error .unknownArgument
    else .error .unknownCommand

/-- Whether a text is a number without sign: digits, with a dot in them but not in front, and
with an exponent. -/
def isNumber (cs : List Char) : Bool :=
  let isMark (c : Char) : Bool := c == 'e' || c == 'E'
  let mantissa := cs.takeWhile (!isMark ·)
  let dots := mantissa.filter (!·.isDigit)
  let exponent := cs.dropWhile (!isMark ·)
  (dots == [] || dots == ['.']) && mantissa.head? != some '.' && mantissa != []
    && (exponent == [] || (exponent.tail != [] && exponent.tail.all Char.isDigit))

/-- Whether the letters behind a dash are a negative number that an option waits for. -/
def awaitsNumber (s : Scan) (letters : List Char) : Bool :=
  match s.pending with
  | some (a, none) => a.takesNegative && isNumber letters
  | _ => false

/-- Reads a word that is the value of a waiting option, or else stands by itself. -/
def readValue (b : Branch) (s : Scan) (word : String) : Except UsageError Scan :=
  match s.pending with
  | some (a, none) => .ok { s with pending := some (a, some word) }
  | _ => s.readOperand b word

/-- Reads a word that does not name a command. -/
def read (b : Branch) (s : Scan) (word : String) : Except UsageError Scan :=
  if s.trailing then s.readOperand b word
  else
    match word.toList with
    | ['-', '-'] => .ok { s with trailing := true }
    | '-' :: '-' :: name => s.readOption b name
    | '-' :: c :: letters =>
      if s.awaitsNumber (c :: letters) then s.readValue b word
      else s.readLetters b (c :: letters)
    | _ => s.readValue b word

/-! ### The end of a command -/

/-- The arguments of a command, if they go together and none is missing. The variable for the
dataset is judged like the option that it stands in for. -/
def finish (b : Branch) (e : Environment) (s : Scan) :
    Except UsageError (List (Argument × String)) := do
  let s ← s.settle
  if (s.given.lookup .data).isNone && e.data = some "" then throw .invalidValue
  if (s.given.lookup .verbose).isSome && (s.given.lookup .quiet).isSome then throw .conflict
  if s.operands < b.operands.length then throw .missingArgument
  return s.given

end Scan

/-! ### Whole command lines -/

/-- A command and the arguments that were given to it. -/
structure CommandLevel where
  branch : Branch
  given : List (Argument × String)
  deriving DecidableEq

/-- Follows the words behind the command for help, which name the command to be explained. That
may be the command for help itself, which has no commands below it. -/
def Branch.helpFor (b : Branch) : List String → UsageError
  | [] => .helpAsked
  | name :: names =>
    match b.child? name with
    | some child => child.helpFor names
    | none => if b.isChildName name && names.isEmpty then .helpAsked else .unknownCommand

/-- Reads the words of a command and of the commands below it. -/
def CommandLevel.read (e : Environment) (b : Branch) (s : Scan) :
    List String → Except UsageError (List CommandLevel)
  | [] => do return [⟨b, ← s.finish b e⟩]
  | word :: words =>
    if s.trailing || s.isWaiting || !b.isChildName word then do
      CommandLevel.read e b (← s.read b word) words
    else
      match b.child? word with
      | some child => do
        let levels ← CommandLevel.read e child .start words
        return ⟨b, ← s.finish b e⟩ :: levels
      | none => .error (b.helpFor words)

namespace CommandLevel

/-- Whether an option is given to one of the commands. -/
def isGiven (levels : List CommandLevel) (a : Argument) : Bool :=
  levels.any fun level => (level.given.lookup a).isSome

/-- The value of an argument of the innermost command that has it. -/
def value? (levels : List CommandLevel) (a : Argument) : Option String :=
  levels.reverse.findSome? fun level => level.given.lookup a

/-- The number that is the value of an argument. -/
def number? (levels : List CommandLevel) (a : Argument) : Option Int64 :=
  (value? levels a).bind fun s => readInt64? s.toList

/-- Which records the commands ask for. -/
def request (levels : List CommandLevel) : ListingRequest :=
  ⟨value? levels .filter, number? levels .page, number? levels .perPage⟩

/-- What the commands ask for, of which the last is the given one. -/
def command? (levels : List CommandLevel) : Branch → Option Command
  | .root => none
  | .users => some (.users (request levels))
  | .joggings => some (.joggings (value? levels .owner) (request levels))
  | .parse => (value? levels .expression).map fun filter =>
      .parse filter ((value? levels .record).bind RecordKind.ofName?)
  | .config | .configShow => some (.config .show)
  | .configPath => some (.config .path)
  | .configInit => some (.config .init)
  | .configSet => do
    let key ← value? levels .key
    let value ← value? levels .value
    return .config (.set key value)
  | .completions =>
    ((value? levels .shell).bind Shell.ofName?).map .completions

/-! ### The dataset -/

/-- Where the value of an option comes from. -/
inductive Origin where
  | environment
  | words
  deriving DecidableEq

/-- The dataset that a command names by its option, or else by the variable. -/
def ownData? (e : Environment) (level : CommandLevel) : Option (Origin × String) :=
  match level.given.lookup .data with
  | some file => some (.words, file)
  | none => e.data.map (Origin.environment, ·)

/-- The value of an option that counts at a command: its own one, unless that is from the
environment and the one from above is not. -/
def handDown (above own : Option (Origin × String)) : Option (Origin × String) :=
  match above, own with
  | some (.words, file), some (.environment, _) => some (.words, file)
  | above, own => own.or above

/-- The dataset that counts at the innermost command, with its origin. -/
def handedData? (e : Environment) (levels : List CommandLevel) : Option (Origin × String) :=
  levels.foldl (fun above level => handDown above (level.ownData? e)) none

/-- The command line that was read level by level. -/
def commandLine (e : Environment) (levels : List CommandLevel) : CommandLine where
  verbose := isGiven levels .verbose
  quiet := isGiven levels .quiet
  json := isGiven levels .json
  noColor := isGiven levels .noColor
  data := (handedData? e levels).map fun (_, file) => ⟨file⟩
  command := levels.getLast?.bind fun level => command? levels level.branch

end CommandLevel

/-- The command line that words spell. -/
def CommandLine.read (e : Environment) (words : List String) : Except UsageError CommandLine := do
  return CommandLevel.commandLine e (← CommandLevel.read e .root .start words)

end RecordFilter
