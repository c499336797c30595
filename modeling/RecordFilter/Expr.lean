import RecordFilter.Calendar
import RecordFilter.Token
import RecordFilter.Token.Lexer

/-! # Filter expressions

The tree that the text of a filter stands for. -/

namespace RecordFilter

/-! ## Literals

The values that a filter compares fields with, and how a literal token denotes one. A quoted
literal with the shape of a date or a time need not denote any; the failure then belongs to the
comparison in which the literal stands. -/

/-- A value written in a filter. -/
inductive Literal where
  | integer (value : Int64)
  | text (value : String)
  | date (value : Date)
  | time (value : TimeOfDay)
  deriving DecidableEq

namespace Literal

/-- The content of the literal as text, which is how enumerations and text fields read it. -/
def asText : Literal → String
  | .integer n => String.ofList (integerText n.toInt)
  | .text s => s
  | .date d => d.text
  | .time t => t.text

/-- The literal as printed: integers bare, all others in quotes. -/
def display (l : Literal) : String :=
  match l with
  | .integer _ => l.asText
  | _ => "'" ++ l.asText ++ "'"

end Literal

/-- The text without one leading and one trailing quote. -/
def unquoted (cs : List Char) : List Char :=
  let inner := match cs with
    | '\'' :: rest => rest
    | _ => cs
  if inner.getLast? = some '\'' then inner.dropLast else inner

/-- The literal that a token denotes, compared with the given field. -/
def Token.literal (t : Token) (field : String) : Except FilterError Literal :=
  let content := unquoted t.lexeme.toList
  let required {α : Type} (value : Option α) (toLiteral : α → Literal) :=
    match value with
    | some v => .ok (toLiteral v)
    | none => .error (FilterError.incompatible field)
  match t.kind with
  | .literal .decimal => required (readInt64? content) .integer
  | .literal .text => .ok (.text (String.ofList content))
  | .literal .date => required (Date.read? content) .date
  | .literal .time => required (TimeOfDay.read? content) .time
  | kind => .error (.unsupportedType kind.label)

/-- A literal of an expression: the value it denotes, or its text as written and the reason why
it denotes none. -/
inductive WrittenLiteral where
  | valid (literal : Literal)
  | invalid (text : String) (error : FilterError)
  deriving DecidableEq

namespace WrittenLiteral

/-- The literal that a token of an expression spells. -/
def ofToken (t : Token) (field : String) : WrittenLiteral :=
  match t.literal field with
  | .ok l => .valid l
  | .error e => .invalid t.lexeme e

/-- The value, or the reason why there is none. -/
def resolved : WrittenLiteral → Except FilterError Literal
  | .valid l => .ok l
  | .invalid _ e => .error e

/-- The literal as printed; one without a value stays as it was written. -/
def display : WrittenLiteral → String
  | .valid l => l.display
  | .invalid text _ => text

end WrittenLiteral

/-! ## Filter expressions

The tree of a filter: comparisons joined by `AND` and `OR`. The printed form puts every node in
parentheses, so that it shows how a filter is grouped. -/

/-- A filter as read, before its fields are looked up. -/
inductive Expr where
  | binary (op : Connective) (left right : Expr)
  | comparison (field : String) (op : Comparator) (value : WrittenLiteral)
  deriving DecidableEq

namespace Expr

/-- The reason of the first literal that denotes no value, in reading order. -/
def firstInvalid : Expr → Option FilterError
  | .binary _ left right => left.firstInvalid.or right.firstInvalid
  | .comparison _ _ (.valid _) => none
  | .comparison _ _ (.invalid _ error) => some error

/-- The expression with parentheses around every node. -/
def display : Expr → String
  | .binary op left right => "(" ++ left.display ++ " " ++ op.label ++ " " ++ right.display ++ ")"
  | .comparison field op value =>
    "(" ++ field ++ " " ++ op.keyword ++ " " ++ value.display ++ ")"

end Expr

/-! ## Reading expressions

The grammar of filters is

* an expression is one or more conjunctions joined by `OR`;
* a conjunction is one or more atoms joined by `AND`;
* an atom is an expression in parentheses or a comparison `field operator literal`.

Both connectives group to the left. Tokens are taken one by one. Between two of them the parser
remembers the operands that wait on the left in each open group (`Pending`) and what it is in the
middle of (`State`), which alone decides the kinds of token that may follow. -/

/-- The operands of one group that wait for a right side: the alternatives read so far, and the
conjunction read so far. -/
structure Pending where
  alternatives : Option Expr
  conjunction : Option Expr

namespace Pending

/-- A group of which nothing has been read. -/
def empty : Pending :=
  ⟨none, none⟩

/-- Joins an operand to what may wait on its left. -/
def join (op : Connective) (left : Option Expr) (right : Expr) : Expr :=
  match left with
  | some left => .binary op left right
  | none => right

/-- The conjunction that an atom completes. -/
def conjoin (p : Pending) (atom : Expr) : Expr :=
  join .and p.conjunction atom

/-- The whole group, once its last atom is read. -/
def close (p : Pending) (atom : Expr) : Expr :=
  join .or p.alternatives (p.conjoin atom)

/-- The group after an atom and a connective. -/
def extend (p : Pending) (atom : Expr) : Connective → Pending
  | .and => ⟨p.alternatives, some (p.conjoin atom)⟩
  | .or => ⟨some (p.close atom), none⟩

end Pending

/-- What the parser is in the middle of. -/
inductive Stage where
  /-- An atom must follow. -/
  | atom
  /-- The field of a comparison has been read. -/
  | comparator (field : String)
  /-- The field and the operator of a comparison have been read. -/
  | literal (field : String) (op : Comparator)
  /-- An atom has been read. -/
  | operand (atom : Expr)

/-- The parser between two tokens: its stage, the innermost group, and the groups around it from
the inside out. -/
structure State where
  stage : Stage
  group : Pending
  outer : List Pending

namespace State

/-- The parser before the first token. -/
def initial : State :=
  ⟨.atom, .empty, []⟩

/-- The kinds of token that may follow. -/
def expected (s : State) : List TokenKind :=
  match s.stage, s.outer with
  | .atom, _ => [.leftParen, .identifier]
  | .comparator _, _ => Comparator.all.map .comparator
  | .literal _ _, _ => [.literal .decimal, .literal .text, .literal .date, .literal .time]
  | .operand _, [] => [.endOfInput, .connective .and, .connective .or]
  | .operand _, _ :: _ => [.rightParen, .connective .and, .connective .or]

/-- Takes a token that is not the end of the input; `none` if it may not follow. -/
def take? (s : State) (t : Token) : Option State :=
  match s.stage, t.kind with
  | .atom, .leftParen => some ⟨.atom, .empty, s.group :: s.outer⟩
  | .atom, .identifier => some { s with stage := .comparator t.lexeme }
  | .comparator field, .comparator op => some { s with stage := .literal field op }
  | .literal field op, .literal _ =>
    some { s with stage := .operand (.comparison field op (.ofToken t field)) }
  | .operand atom, .connective op => some { s with stage := .atom, group := s.group.extend atom op }
  | .operand atom, .rightParen =>
    match s.outer with
    | group :: outer => some ⟨.operand (s.group.close atom), group, outer⟩
    | [] => none
  | _, _ => none

/-- The error for a token that may not follow. An expression that ends within a group lacks a
parenthesis. -/
def failure (s : State) (t : Token) : FilterError :=
  match s.stage, s.outer, t.kind with
  | .operand _, _ :: _, .endOfInput => .missing .rightParen t
  | _, _, _ => .mismatched s.expected t

/-- The whole expression, if the input may end here. -/
def finish? (s : State) : Option Expr :=
  match s.stage, s.outer with
  | .operand atom, [] => some (s.group.close atom)
  | _, _ => none

/-- The answer at the end of the input, which the token `t` marks. -/
def ended (s : State) (t : Token) : Except FilterError Expr :=
  match s.finish? with
  | some e => .ok e
  | none => .error (s.failure t)

/-- Takes the tokens up to the end of the input. -/
def run (s : State) : List Token → Except FilterError Expr
  | [] => s.ended (.ending 0)
  | t :: ts =>
    if t.kind = .endOfInput then s.ended t
    else match s.take? t with
      | some s => s.run ts
      | none => .error (s.failure t)

end State

namespace Expr

/-- The expression that a list of tokens spells. -/
def ofTokens (ts : List Token) : Except FilterError Expr :=
  State.initial.run ts

/-- The expression that a text spells. -/
def parse (s : String) : Except FilterError Expr := do
  ofTokens (← tokenize s)

end Expr

end RecordFilter
