import RecordFilter.Calendar
import RecordFilter.Text.Basic
import RecordFilter.Text.Lowercase

/-! # Fields and values

What a kind of record exposes to filters. -/

namespace RecordFilter

/-! ## Fields

What a kind of record exposes to filters: a table of named fields with their types. Field names
are looked up without regard to ASCII case. -/

/-- A variant of an enumeration with its place in the declaration. -/
structure EnumVariant where
  ordinal : Nat
  name : String
  deriving DecidableEq

/-- A closed list of named variants in ascending order. -/
structure EnumType where
  name : String
  variants : List String
  deriving DecidableEq

/-- The types of fields. A reference names another record and cannot be compared. -/
inductive FieldType where
  | enum (type : EnumType)
  | integer
  | text
  | date
  | time
  | reference
  deriving DecidableEq

/-- A field under its declared name. -/
structure Field where
  name : String
  type : FieldType
  deriving DecidableEq

/-- The fields of the records of one kind. -/
structure FieldTable where
  record : String
  fields : List Field
  deriving DecidableEq

namespace EnumVariant

/-- Variants follow their declaration; variants of one place in different enumerations follow
their names. -/
def compare (a b : EnumVariant) : Ordering :=
  (Ord.compare a.ordinal b.ordinal).then (Ord.compare a.name b.name)

end EnumVariant

namespace EnumType

/-- The variant of exactly this name. -/
def variant? (e : EnumType) (name : String) : Option EnumVariant :=
  (e.variants.findIdx? (· == name)).map (⟨·, name⟩)

end EnumType

namespace FieldType

/-- The name of the type in error messages. -/
def label : FieldType → String
  | .enum _ => "enum"
  | .integer => "integer"
  | .text => "text"
  | .date => "date"
  | .time => "time"
  | .reference => "reference"

end FieldType

/-- Whether two names agree but for the case of ASCII letters. -/
def sameName (a b : String) : Bool :=
  a.toList.map Char.toLower == b.toList.map Char.toLower

namespace FieldTable

/-- The first field of this name. -/
def lookup (t : FieldTable) (name : String) : Option Field :=
  t.fields.find? (sameName ·.name name)

/-- How far a declared name is from a written one, both in lowercase. -/
def nameDistance (written declared : String) : Nat :=
  editDistance (lowercase written).toList (lowercase declared).toList

/-- The largest distance at which a declared name is suggested. -/
def suggestionReach : Nat := 3

/-- The declared name that is nearest to a written one, the earliest of several. -/
def nearest (t : FieldTable) (name : String) : Option (String × Nat) :=
  t.fields.foldl (fun best field =>
    let distance := nameDistance name field.name
    match best with
    | some (_, least) => if distance < least then some (field.name, distance) else best
    | none => some (field.name, distance)) none

/-- The nearest declared name, if it differs from the written one but not by much. -/
def suggest (t : FieldTable) (name : String) : Option String :=
  match t.nearest name with
  | some (declared, distance) =>
    if 0 < distance ∧ distance ≤ suggestionReach then some declared else none
  | none => none

end FieldTable

/-! ## Field values

The values that records hold and predicates compare. Values of one kind are totally ordered;
values of different kinds, and absent ones, do not compare at all. -/

/-- The value of a field, or the operand of a comparison. -/
inductive Value where
  | enum (variant : EnumVariant)
  | integer (value : Int64)
  | text (value : String)
  | date (value : Date)
  | time (value : TimeOfDay)
  | null
  deriving DecidableEq

namespace Value

/-- The order of two values of one kind. Texts are ordered by their code points, which is also
the order of their bytes in UTF-8. -/
def compare : Value → Value → Option Ordering
  | .enum a, .enum b => some (a.compare b)
  | .integer a, .integer b => some (Ord.compare a b)
  | .text a, .text b => some (Ord.compare a b)
  | .date a, .date b => some (a.compare b)
  | .time a, .time b => some (a.compare b)
  | _, _ => none

/-- A text that may be absent. -/
def ofText? : Option String → Value
  | some s => .text s
  | none => .null

/-- The value as printed: integers bare, an absent value as `NULL`, all others in quotes. -/
def display : Value → String
  | .enum v => "'" ++ v.name ++ "'"
  | .integer n => String.ofList (integerText n.toInt)
  | .text s => "'" ++ s ++ "'"
  | .date d => "'" ++ d.text ++ "'"
  | .time t => "'" ++ t.text ++ "'"
  | .null => "NULL"

end Value

end RecordFilter
