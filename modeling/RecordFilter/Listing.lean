import RecordFilter.Dataset
import RecordFilter.Text.Terminal

/-! # Listings

Lists of records as they are printed: a table with one line for each record, or JSON. -/

namespace RecordFilter

/-! ## Columns of text

Lines of cells that stand under one another. Widths count characters. -/

/-- A text of at most `width` characters: a longer one is cut and ends in three dots. -/
def truncated (width : Nat) (cs : List Char) : List Char :=
  if width < cs.length then cs.take (width - 3) ++ ['.', '.', '.'] else cs

/-- An optional text in a cell, a dash if it is absent. -/
def optionalCell (value : Option String) : List Char :=
  match value with
  | some s => s.toList
  | none => ['-']

/-- A column of a table: its title, and the width to which its cells are filled with blanks on
the right, or on the left. A wider cell is left as it is. -/
structure Column where
  title : String
  width : Nat
  rightAligned : Bool

namespace Column

/-- A cell of the column. -/
def fill (c : Column) (cell : List Char) : List Char :=
  let blanks := List.replicate (c.width - cell.length) ' '
  if c.rightAligned then blanks ++ cell else cell ++ blanks

/-- A line with one cell in each column and a blank between two cells. -/
def line : List Column → List (List Char) → List Char
  | [c], [cell] => c.fill cell
  | c :: cs, cell :: cells => c.fill cell ++ ' ' :: line cs cells
  | _, _ => []

/-- The line with the titles of the columns. -/
def titles (cs : List Column) : List Char :=
  line cs (cs.map (·.title.toList))

end Column

/-! ## Listings -/

/-- A table: a line of titles and the given lines. -/
def tableText (colors : Bool) (columns : List Column) (rows : List (List Char)) : String :=
  let header := Style.dimmed.paint colors (Column.titles columns)
  String.ofList ((header :: rows).flatMap (· ++ ['\n']))

/-! ### Users -/

/-- The name of a role, in which those above the lowest stand out. -/
def Role.cell (colors : Bool) (r : Role) : List Char :=
  match r with
  | .admin => Style.red.paint colors r.name.toList
  | .manager => Style.yellow.paint colors r.name.toList
  | .user => r.name.toList

namespace User

/-- The columns of the table of users. -/
def columns : List Column :=
  [⟨"ID", 6, false⟩, ⟨"Name", 24, false⟩, ⟨"Role", 0, false⟩]

/-- The line of a user in the table. -/
def row (colors : Bool) (u : User) : List Char :=
  Column.line columns
    [integerText u.id.toInt, truncated 24 u.name.toList, u.role.cell colors]

/-- Users as a table. -/
def listing (colors : Bool) (us : List User) : String :=
  if us.isEmpty then "No users found.\n" else tableText colors columns (us.map (row colors))

/-- A user in a listing. -/
def listingEntry (u : User) : Json :=
  .ofMembers [("id", .ofInt64 u.id), ("version", .ofInt64 u.version), ("name", .ofString u.name),
    ("role", .ofString u.role.name)]

/-- Users as JSON. -/
def listingJson (us : List User) : String :=
  (Json.ofMembers [("users", .array (us.map listingEntry))]).text

end User

/-! ### Sessions -/

namespace Jogging

/-- The columns of the table of sessions. -/
def columns : List Column :=
  [⟨"ID", 6, false⟩, ⟨"User", 12, false⟩, ⟨"Date", 10, false⟩, ⟨"Time", 8, false⟩,
    ⟨"Distance", 9, true⟩, ⟨"Location", 16, false⟩, ⟨"Temp", 6, false⟩, ⟨"Weather", 0, false⟩]

/-- The line of a session in the table. -/
def row (j : Jogging) : List Char :=
  Column.line columns
    [integerText j.id.toInt, truncated 12 j.user.toList, j.date.chars, j.time.chars,
      integerText j.distance.toInt, truncated 16 j.location.toList,
      optionalCell j.averageTemperature, truncated 20 (optionalCell j.weatherCondition)]

/-- Sessions as a table. -/
def listing (colors : Bool) (js : List Jogging) : String :=
  if js.isEmpty then "No joggings found.\n" else tableText colors columns (js.map row)

/-- A session in a listing, without its version and with whole seconds. -/
def listingEntry (j : Jogging) : Json :=
  .ofMembers ([("id", .ofInt64 j.id), ("user", .ofString j.user), ("date", .ofString j.date.text),
    ("time", .ofString j.time.text), ("distance", .ofInt64 j.distance),
    ("location", .ofString j.location)]
    ++ Json.optionalMember "averageTemperature" j.averageTemperature
    ++ Json.optionalMember "weatherCondition" j.weatherCondition)

/-- Sessions as JSON. -/
def listingJson (js : List Jogging) : String :=
  (Json.ofMembers [("joggings", .array (js.map listingEntry))]).text

end Jogging

end RecordFilter
