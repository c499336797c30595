import RecordFilter.Config
import RecordFilter.Expr
import RecordFilter.Predicate
import RecordFilter.Store
import RecordFilter.Text.Basic
import RecordFilter.Text.CharacterClass

/-! # The log

What a run reports about its course besides its result. Each event has a level, and belongs to a
part of the program; a run shows the events up to the levels chosen for them. -/

namespace RecordFilter

/-! ## Quotations in log lines

A text in double quotes, in which every character that would not show has an escape. -/

/-- The form of a character in a quotation. -/
def quotedChar (c : Char) : List Char :=
  if c = '\x00' then ['\\', '0']
  else if c = '\t' then ['\\', 't']
  else if c = '\r' then ['\\', 'r']
  else if c = '\n' then ['\\', 'n']
  else if c = '"' ∨ c = '\\' then ['\\', c]
  else if isHidden c then ['\\', 'u', '\x7b'] ++ Nat.toDigits 16 c.toNat ++ ['\x7d']
  else [c]

/-- The quotation of a text. -/
def quotation (s : String) : String :=
  String.ofList ('"' :: s.toList.flatMap quotedChar ++ ['"'])

/-! ## The log -/

/-! ### Levels -/

/-- How much an event matters. -/
inductive LogLevel where
  | error
  | warning
  | info
  | debug
  | trace
  deriving DecidableEq

namespace LogLevel

/-- The name of the level in a line of the log. -/
def name : LogLevel → String
  | .error => "ERROR"
  | .warning => "WARN"
  | .info => "INFO"
  | .debug => "DEBUG"
  | .trace => "TRACE"

/-- The number of levels above the level. -/
def rank : LogLevel → Nat
  | .error => 0
  | .warning => 1
  | .info => 2
  | .debug => 3
  | .trace => 4

/-- Whether events of this level are shown up to a level, or none at all. -/
def isShown (level : LogLevel) : Option LogLevel → Bool
  | some limit => level.rank ≤ limit.rank
  | none => false

/-- All levels. -/
def all : List LogLevel := [.error, .warning, .info, .debug, .trace]

/-- The limit with a number: 0 shows no events, and each number above it one level more. -/
def limitOfNumber? (n : Nat) : Option (Option LogLevel) :=
  if n = 0 then some none else all[n - 1]?.map some

/-- The limit with a name, in any ASCII case. -/
def limitOfName? (word : String) : Option (Option LogLevel) :=
  let name := String.ofList (word.toList.map Char.toUpper)
  if name = "OFF" then some none else (all.find? (·.name = name)).map some

/-- The limit that a word asks for by its number, which may have a plus sign, or by its name. -/
def limit? (word : String) : Option (Option LogLevel) :=
  let number? := match word.toList with
    | '+' :: digits => readNat? digits
    | digits => readNat? digits
  (number?.bind limitOfNumber?).or (limitOfName? word)

end LogLevel

/-! ### Events -/

/-- What a run reports. -/
inductive Event where
  | newerConfig (version : Nat)
  | resolved (dataPath : Option Path)
  | datasetMissing (path : Path)
  | datasetLoaded (path : Path) (users joggings : Nat)
  | tokenized (count : Nat)
  | parsed (expr : Expr)
  | compiled (record : String) (predicate : Predicate)
  | running (record : String) (filtered : Bool) (window : Option Window)
  | executed (scanned returned : Nat)
  deriving DecidableEq

namespace Event

/-- The level of the event. -/
def level : Event → LogLevel
  | .newerConfig _ => .warning
  | .resolved _ | .datasetMissing _ | .datasetLoaded _ _ _ | .parsed _ | .compiled _ _
  | .running _ _ _ => .debug
  | .tokenized _ | .executed _ _ => .trace

/-- What has happened. -/
def message : Event → String
  | .newerConfig _ => "config file is newer than this version of wq"
  | .resolved _ => "resolved context"
  | .datasetMissing _ => "dataset file not found, using empty dataset"
  | .datasetLoaded _ _ _ => "loaded dataset"
  | .tokenized _ => "tokenized filter expression"
  | .parsed _ => "parsed filter expression"
  | .compiled _ _ => "compiled filter"
  | .running _ _ _ => "running query"
  | .executed _ _ => "executed in-memory query"

/-- The spelling of a number. -/
def count (n : Nat) : String :=
  String.ofList (numeral n)

/-- The spelling of a value that may be absent. -/
def optional {α : Type} (text : α → String) : Option α → String
  | some a => "Some(" ++ text a ++ ")"
  | none => "None"

/-- The spelling of a window. -/
def windowText (w : Window) : String :=
  "Window \x7b offset: " ++ count w.offset ++ ", limit: " ++ count w.limit ++ " \x7d"

/-- The circumstances, each with its name. -/
def fields : Event → List (String × String)
  | .newerConfig version => [("found", count version), ("supported", count Config.currentVersion)]
  | .resolved dataPath => [("data_path", optional (fun p => quotation p.text) dataPath)]
  | .datasetMissing path => [("path", path.text)]
  | .datasetLoaded path users joggings =>
    [("path", path.text), ("users", count users), ("joggings", count joggings)]
  | .tokenized n => [("count", count n)]
  | .parsed expr => [("expr", expr.display)]
  | .compiled record predicate => [("record", quotation record), ("predicate", predicate.display)]
  | .running record filtered window =>
    [("record", quotation record), ("filtered", Config.flagText filtered),
      ("window", optional windowText window)]
  | .executed scanned returned => [("scanned", count scanned), ("returned", count returned)]

/-- The part of the program that reports the event, by the name that a filter for the log gives to
it. What belongs to a part has its name in front of the own one. -/
def component : Event → String
  | .resolved _ => "wq"
  | .datasetMissing _ => "wq::commands"
  | .newerConfig _ => "wq::commands::config"
  | .datasetLoaded _ _ _ => "whereclause_rs::store"
  | .running _ _ _ => "whereclause_rs::repository"
  | .executed _ _ => "whereclause_rs::query"
  | .tokenized _ => "whereclause_rs::filter::lexer"
  | .parsed _ => "whereclause_rs::filter::parser"
  | .compiled _ _ => "whereclause_rs::filter::compiler"

/-- The names of the circumstances, of which the message is one. -/
def fieldNames (e : Event) : List String :=
  "message" :: e.fields.map Prod.fst

/-- The line of the event in the log. -/
def line (e : Event) : String :=
  e.fields.foldl (fun text (name, value) => text ++ " " ++ name ++ "=" ++ value)
    (e.level.name ++ " " ++ e.message)

end Event

/-! ## Log filters

Which events are shown. A filter is written as rules with commas in between, `component[span]=limit`
or `component[span{field}]=limit`, of which a rule has one part at least. The most specific rule for
an event counts, and of equally specific ones the last. An event for which there is no rule is not
shown. -/

/-- What a rule asks of the circumstances of an event. -/
structure FieldTest where
  name : String
  value : Option String
  deriving DecidableEq

/-- A rule, which limits the events that it concerns to a level, or hides them all. -/
structure LogRule where
  component : Option String
  span : Option String
  field : Option FieldTest
  limit : Option LogLevel
  deriving DecidableEq

/-- The rules of a filter, as they are written. -/
structure LogFilter where
  rules : List LogRule
  deriving DecidableEq

namespace LogRule

/-- Whether a rule is one for the component of an event, by the start of its name. -/
def coversComponent (r : LogRule) (e : Event) : Bool :=
  match r.component with
  | none => true
  | some start => start.toList.isPrefixOf e.component.toList

/-- Whether a rule concerns an event. There are no spans in the log, so that a rule for one
concerns no events, and neither does a rule for the value of a field, which is one of a span. -/
def concerns (r : LogRule) (e : Event) : Bool :=
  r.span.isNone && r.coversComponent e &&
    match r.field with
    | none => true
    | some ⟨name, none⟩ => e.fieldNames.contains name
    | some ⟨_, some _⟩ => false

/-- The size of the name by which the rule names components. -/
def componentSize (r : LogRule) : Nat :=
  (r.component.getD "").utf8ByteSize

/-- Whether a rule counts where an earlier one concerns the same event: a longer name is more
specific, and so is a field; among fields the order of their names decides. -/
def outranks (r earlier : LogRule) : Bool :=
  if r.componentSize = earlier.componentSize then
    match earlier.field, r.field with
    | none, _ => true
    | some _, none => false
    | some old, some new => compare old.name new.name != .gt
  else earlier.componentSize < r.componentSize

end LogRule

namespace LogFilter

/-- The filter that shows all events up to a level. -/
def upTo (level : LogLevel) : LogFilter :=
  ⟨[⟨none, none, none, some level⟩]⟩

/-- The rule that counts for an event, if there is one. -/
def ruleFor? (f : LogFilter) (e : Event) : Option LogRule :=
  (f.rules.filter (·.concerns e)).foldl (fun found r =>
    if found.all r.outranks then some r else found) none

/-- Whether an event is shown. -/
def shows (f : LogFilter) (e : Event) : Bool :=
  (f.ruleFor? e).any fun r => e.level.isShown r.limit

end LogFilter

/-! ### Reading rules -/

/-- How far a rule has been read: its open part, with the position at which the part begins. -/
inductive RuleStage where
  | start
  /-- A component, or a limit that stands alone. -/
  | word (first : Nat)
  | span (first : Nat)
  | field (first : Nat)
  | fieldEnd
  | spanEnd
  | limit (first : Nat)
  deriving DecidableEq

/-- What has been read of a rule. -/
structure RuleDraft where
  stage : RuleStage
  component : Option String
  span : Option String
  field : Option FieldTest
  deriving DecidableEq

namespace RuleDraft

/-- The draft of a rule of which nothing has been read. -/
def empty : RuleDraft :=
  ⟨.start, none, none, none⟩

/-- The text between two positions. -/
def slice (cs : List Char) (first last : Nat) : String :=
  String.ofList ((cs.take last).drop first)

/-- Whether the character can begin a rule without a component. -/
def beginsRule (c : Char) : Bool :=
  c == '-' || c == ':' || c == '_' || isAlphabetic c || isNumeric c

/-- The test that a text spells: a name, and behind an equals sign a value up to another one. -/
def fieldTest (s : String) : FieldTest :=
  match parts '=' s.toList with
  | (name, []) => ⟨String.ofList name, none⟩
  | (name, value :: _) => ⟨String.ofList name, some (String.ofList value)⟩

/-- The draft behind one more character, which stands at the given position. -/
def step (cs : List Char) (d : RuleDraft) (position : Nat) (c : Char) : Option RuleDraft :=
  match d.stage with
  | .start =>
    if c = '[' then some { d with stage := .span (position + 1) }
    else if beginsRule c then some { d with stage := .word position }
    else none
  | .word first =>
    if c = '=' then
      some { d with component := slice cs first position, stage := .limit (position + 1) }
    else if c = '[' then
      some { d with component := slice cs first position, stage := .span (position + 1) }
    else some d
  | .span first =>
    if c = ']' then some { d with span := slice cs first position, stage := .spanEnd }
    else if c = '\x7b' then
      let name := slice cs first position
      some { d with
        span := if name.isEmpty then none else some name, stage := .field (position + 1) }
    else some d
  | .field first =>
    if c = '\x7d' then
      let test := slice cs first position
      if test.isEmpty then none else some { d with field := fieldTest test, stage := .fieldEnd }
    else some d
  | .fieldEnd => if c = ']' then some { d with stage := .spanEnd } else none
  | .spanEnd => if c = '=' then some { d with stage := .limit (position + 1) } else none
  | .limit _ => some d

/-- The draft behind all characters from a position on. -/
def advance (cs : List Char) (d : RuleDraft) (position : Nat) : List Char → Option RuleDraft
  | [] => some d
  | c :: rest => (d.step cs position c).bind fun d => advance cs d (position + 1) rest

/-- The rule that a draft makes up at the end of the text. Without a limit of its own it shows all
events that it concerns. -/
def finish (cs : List Char) (d : RuleDraft) : Option LogRule :=
  match d.stage with
  | .word first =>
    let word := slice cs first cs.length
    match LogLevel.limit? word with
    | some limit => some ⟨none, none, none, limit⟩
    | none => some ⟨some word, none, none, some .trace⟩
  | .limit first =>
    let word := slice cs first cs.length
    if word.isEmpty then some ⟨d.component, d.span, d.field, some .trace⟩
    else (LogLevel.limit? word).map fun limit => ⟨d.component, d.span, d.field, limit⟩
  | .spanEnd => some ⟨d.component, d.span, d.field, some .trace⟩
  | .start | .span _ | .field _ | .fieldEnd => none

end RuleDraft

/-- The text without white space in front and behind. -/
def trimBlanks (cs : List Char) : List Char :=
  (dropBlanks (dropBlanks cs).reverse).reverse

/-- The rule that a text spells. White space around it is skipped in telling its parts, but still
belongs to the text out of which they are taken: they begin and end so much earlier as there is
white space in front, and the last one takes all that is left. -/
def LogRule.read? (cs : List Char) : Option LogRule :=
  (RuleDraft.empty.advance cs 0 (trimBlanks cs)).bind (RuleDraft.finish cs)

/-- The filter that a text spells. -/
def LogFilter.read? (s : String) : Option LogFilter :=
  ((properParts ',' s.toList).mapM LogRule.read?).map LogFilter.mk

end RecordFilter
