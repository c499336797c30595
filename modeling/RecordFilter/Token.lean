/-! # Tokens

The words of a filter, and why a text is none. -/

namespace RecordFilter

/-! ## Operators

The comparators and connectives of the filter language. -/

/-- A comparison of a field with a value. -/
inductive Comparator where
  | eq
  | ne
  | gt
  | lt
  deriving DecidableEq

namespace Comparator

/-- Every comparator, in the order in which listings name them. -/
def all : List Comparator := [.eq, .ne, .gt, .lt]

/-- The word that stands for the comparator in a filter. -/
def keyword : Comparator → String
  | .eq => "eq"
  | .ne => "ne"
  | .gt => "gt"
  | .lt => "lt"

/-- The sign that stands for the comparator in a printed predicate. -/
def symbol : Comparator → String
  | .eq => "="
  | .ne => "<>"
  | .gt => ">"
  | .lt => "<"

/-- Whether a field that stands in the order `o` to the operand passes the comparison. -/
def accepts : Comparator → Ordering → Bool
  | .eq, o => o == .eq
  | .ne, o => o != .eq
  | .gt, o => o == .gt
  | .lt, o => o == .lt

end Comparator

/-- A logical connective of two conditions. -/
inductive Connective where
  | and
  | or
  deriving DecidableEq

namespace Connective

/-- The word that stands for the connective in printed expressions. -/
def label : Connective → String
  | .and => "AND"
  | .or => "OR"

/-- The truth of two conditions joined by the connective. -/
def combine : Connective → Bool → Bool → Bool
  | .and, a, b => a && b
  | .or, a, b => a || b

end Connective

/-! ## Tokens

The words of a filter. A token keeps the text it was read from and the byte at which that text
begins; the end of the input is a token too. -/

/-- The four spellings of a literal. A quoted literal is a date or a time when its content has
that shape, whether or not it denotes one. -/
inductive LiteralShape where
  | decimal
  | text
  | date
  | time
  deriving DecidableEq

/-- The part a token plays in a filter. -/
inductive TokenKind where
  | connective (op : Connective)
  | comparator (op : Comparator)
  | identifier
  | literal (shape : LiteralShape)
  | leftParen
  | rightParen
  | endOfInput
  deriving DecidableEq

/-- A token with its text as written and the byte offset of that text. -/
structure Token where
  kind : TokenKind
  lexeme : String
  position : Nat
  deriving DecidableEq

namespace LiteralShape

/-- The name of the shape in error messages. -/
def label : LiteralShape → String
  | .decimal => "DECIMAL"
  | .text => "TEXT"
  | .date => "DATE"
  | .time => "TIME"

end LiteralShape

namespace TokenKind

/-- The name of the kind in error messages. -/
def label : TokenKind → String
  | .connective op => op.label
  | .comparator .eq => "EQ"
  | .comparator .ne => "NE"
  | .comparator .gt => "GT"
  | .comparator .lt => "LT"
  | .identifier => "IDENTIFIER"
  | .literal shape => shape.label
  | .leftParen => "'('"
  | .rightParen => "')'"
  | .endOfInput => "<EOF>"

end TokenKind

namespace Token

/-- The end of a text of the given length in bytes. -/
def ending (position : Nat) : Token :=
  ⟨.endOfInput, "", position⟩

/-- The token as error messages show it: its text, or the name of the end of the input. -/
def shown (t : Token) : String :=
  if t.kind = .endOfInput then TokenKind.endOfInput.label else t.lexeme

end Token

/-! ## Rejected filters

Why a text is no filter for a table. The first three causes concern its spelling and its
grammar, the others what its comparisons mean. -/

/-- The reasons for which a filter is rejected. -/
inductive FilterError where
  /-- No token starts with `text`, which stands at byte `position`. -/
  | unrecognized (text : String) (position : Nat)
  /-- The token `found` stands where only the kinds `expected` may follow. -/
  | mismatched (expected : List TokenKind) (found : Token)
  /-- The token `found` stands where a token of the kind `expected` is required. -/
  | missing (expected : TokenKind) (found : Token)
  /-- The table has no field of this name; a declared name may be close to it. -/
  | unknownField (name : String) (suggestion : Option String)
  /-- The literal denotes no value that the field can be compared with. -/
  | incompatible (field : String)
  /-- The text names no variant of the enumeration. -/
  | unknownVariant (enum value : String)
  /-- There is no comparison for values of this type. -/
  | unsupportedType (name : String)
  /-- The comparator has no meaning in the registry at hand. -/
  | unsupportedComparator (op : Comparator)
  deriving DecidableEq

namespace FilterError

/-- A set of token kinds, in the order of their declaration in the grammar. -/
def expectation (kinds : List TokenKind) : String :=
  "\x7b" ++ ", ".intercalate (kinds.map TokenKind.label) ++ "\x7d"

/-- The words that follow the name of an unknown field. -/
def hint : Option String → String
  | some name => ". Did you mean '" ++ name ++ "'?"
  | none => ""

/-- Whether the text is rejected before its comparisons are looked at. -/
def isSyntax : FilterError → Bool
  | .unrecognized .. | .mismatched .. | .missing .. => true
  | _ => false

/-- The message shown for the error. -/
def message : FilterError → String
  | .unrecognized text _ =>
    "invalid filter expression. Details: token recognition error at: '" ++ text ++ "'"
  | .mismatched expected found =>
    "invalid filter expression. Details: mismatched input '" ++ found.shown ++ "' expecting "
      ++ expectation expected
  | .missing expected found =>
    "invalid filter expression. Details: missing " ++ expected.label ++ " at '" ++ found.shown
      ++ "'"
  | .unknownField name suggestion => "'" ++ name ++ "' field doesn't exist" ++ hint suggestion
  | .incompatible _ => "Value type doesn't correspond to field data type"
  | .unknownVariant enum value => "'" ++ value ++ "' " ++ enum ++ " doesn't exist"
  | .unsupportedType name => "'" ++ name ++ "' data type is not supported"
  | .unsupportedComparator op => "'" ++ op.keyword ++ "' operation is not supported"

end FilterError

end RecordFilter
