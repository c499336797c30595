import RecordFilter.Calendar

/-! # TOML documents

A document is a table: names with values, some of which are tables again. A statement of the
document adds one value, or opens a table for the statements below it. No statement may replace
what an earlier one has put down; a table can be added to as long as the way in which it was
begun leaves it open. -/

namespace RecordFilter

/-- How a table of a document was begun. -/
inductive TableOrigin where
  /-- By its heading. -/
  | heading
  /-- On the way to a table with a longer heading. -/
  | implied
  /-- On the way to a value with a dotted name. -/
  | dotted
  /-- As a value, between braces. -/
  | braced
  deriving DecidableEq

/-- A value of a document. -/
inductive Toml where
  | text (s : String)
  | integer (n : Int)
  | flag (b : Bool)
  /-- A number with a fraction or an exponent, or one that is not finite. -/
  | decimal
  /-- A date, a time of day, or both. -/
  | moment
  | array (items : List Toml)
  | table (origin : TableOrigin) (members : List (String × Toml))
  /-- Tables under equal headings in double brackets. -/
  | rows (tables : List (List (String × Toml)))
  deriving Inhabited

/-- The contents of a table, in the order in which they were begun. -/
abbrev TomlTable := List (String × Toml)

namespace TomlTable

/-- The table with another value for a name that it has. -/
def replace (name : String) (value : Toml) (t : TomlTable) : TomlTable :=
  t.map fun member => if member.1 = name then (name, value) else member

/-- The table with a value below dotted names. They must lead to a table that was begun by dotted
names; on the way there may be others, and the last of several tables with one heading. -/
def assign : List String → String → Toml → TomlTable → Option TomlTable
  | [], name, value, t =>
    if (t.lookup name).isSome then none else some (t ++ [(name, value)])
  | first :: rest, name, value, t =>
    match t.lookup first with
    | none =>
      (assign rest name value []).map fun below => t ++ [(first, .table .dotted below)]
    | some (.table origin below) =>
      if origin = .dotted ∨ origin = .implied ∧ rest ≠ [] then
        (assign rest name value below).map fun below => t.replace first (.table origin below)
      else none
    | some (.rows tables) =>
      match tables.getLast? with
      | some last =>
        if rest = [] then none
        else (assign rest name value last).map fun last =>
          t.replace first (.rows (tables.dropLast ++ [last]))
      | none => none
    | some _ => none

/-- Changes the table with the given heading. Of several tables with one heading, the last is
meant. -/
def under : List String → (TomlTable → Option TomlTable) → TomlTable → Option TomlTable
  | [], change, t => change t
  | first :: rest, change, t =>
    match t.lookup first with
    | none => (under rest change []).map fun below => t ++ [(first, .table .implied below)]
    | some (.table .braced _) => none
    | some (.table origin below) =>
      (under rest change below).map fun below => t.replace first (.table origin below)
    | some (.rows tables) =>
      match tables.getLast? with
      | some last =>
        (under rest change last).map fun last => t.replace first (.rows (tables.dropLast ++ [last]))
      | none => none
    | some _ => none

/-- Begins the table with a heading, which no other table may have. -/
def beginTable (name : String) (t : TomlTable) : Option TomlTable :=
  match t.lookup name with
  | none => some (t ++ [(name, .table .heading [])])
  | some (.table .implied below) => some (t.replace name (.table .heading below))
  | some _ => none

/-- Begins one more table with a heading in double brackets. -/
def beginRow (name : String) (t : TomlTable) : Option TomlTable :=
  match t.lookup name with
  | none => some (t ++ [(name, .rows [[]])])
  | some (.rows tables) => some (t.replace name (.rows (tables ++ [[]])))
  | some _ => none

end TomlTable

/-- A dotted name: the names before the last dot, and the last one. -/
structure DottedName where
  path : List String
  name : String

/-- A line of a document that is not empty. -/
inductive TomlStatement where
  | heading (name : DottedName)
  | rowHeading (name : DottedName)
  | member (name : DottedName) (value : Toml)

/-- The heading that the next statements stand under, and the document so far. -/
structure TomlDraft where
  heading : List String
  document : TomlTable

namespace TomlDraft

/-- Adds a statement. -/
def add (d : TomlDraft) : TomlStatement → Option TomlDraft
  | .heading ⟨path, name⟩ =>
    (TomlTable.under path (TomlTable.beginTable name) d.document).map (⟨path ++ [name], ·⟩)
  | .rowHeading ⟨path, name⟩ =>
    (TomlTable.under path (TomlTable.beginRow name) d.document).map (⟨path ++ [name], ·⟩)
  | .member ⟨path, name⟩ value =>
    (TomlTable.under d.heading (TomlTable.assign path name value) d.document).map (⟨d.heading, ·⟩)

end TomlDraft

/-- The document with the given statements. -/
def TomlTable.ofStatements (statements : List TomlStatement) : Option TomlTable :=
  (statements.foldlM TomlDraft.add ⟨[], []⟩).map TomlDraft.document

/-! ## Dates and times in TOML

A date `year-month-day`, a time of day `hour:minute:second`, or both with a mark in between and
perhaps the offset of a time zone behind them. All numbers have a fixed width but for the fraction
of a second. What a date or a time denotes does not matter here, only where its text ends. -/

namespace Toml

/-- Reads a number of exactly so many digits. -/
def readFixed (width : Nat) (cs : List Char) : Option (Nat × List Char) :=
  (readDigits width cs).bind fun (digits, rest) =>
    if digits.length = width then some (digitsValue digits, rest) else none

/-- Reads a number of two digits up to a bound. -/
def readUpTo (bound : Nat) (cs : List Char) : Option (List Char) :=
  (readFixed 2 cs).bind fun (n, rest) => if n ≤ bound then some rest else none

/-- The text behind a date of the calendar. -/
def readDay (cs : List Char) : Option (List Char) := do
  let (year, '-' :: cs) ← readFixed 4 cs | none
  let (month, '-' :: cs) ← readFixed 2 cs | none
  let (day, cs) ← readFixed 2 cs
  if IsDate year month day then some cs else none

/-- The text behind a fraction of a second that may stand here. -/
def dropFraction : List Char → List Char
  | '.' :: c :: cs => if c.isDigit then cs.dropWhile Char.isDigit else '.' :: c :: cs
  | cs => cs

/-- The text behind a time of day, in which a minute may have a leap second. -/
def readTime (cs : List Char) : Option (List Char) := do
  let ':' :: cs ← readUpTo 23 cs | none
  let ':' :: cs ← readUpTo 59 cs | none
  return dropFraction (← readUpTo 60 cs)

/-- The text behind hours and minutes. -/
def readHourMinute (cs : List Char) : Option (List Char) := do
  let ':' :: cs ← readUpTo 23 cs | none
  readUpTo 59 cs

/-- The text behind the offset of a time zone that may stand here. -/
def dropOffset : List Char → List Char
  | [] => []
  | c :: cs =>
    if c = 'Z' ∨ c = 'z' then cs
    else if c = '+' ∨ c = '-' then (readHourMinute cs).getD (c :: cs)
    else c :: cs

/-- The text behind a time of day and its offset that may follow a date. -/
def dropTime : List Char → List Char
  | [] => []
  | c :: cs =>
    if c = 'T' ∨ c = 't' ∨ c = ' ' then ((readTime cs).map dropOffset).getD (c :: cs)
    else c :: cs

/-- The text behind a date, a time of day, or both. -/
def readMoment (cs : List Char) : Option (List Char) :=
  ((readDay cs).map dropTime).or (readTime cs)

end Toml

end RecordFilter
