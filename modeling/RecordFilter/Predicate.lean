import RecordFilter.Expr
import RecordFilter.Value

/-! # Predicates

Conditions on records, checked against the values of their fields, and how expressions become such
conditions.

A registry says which operation each comparator of the filter language stands for, and an operation
builds the condition on a field from the operand. An expression becomes a predicate on the records
of a table when each of its comparisons makes sense there. The comparisons are checked in reading
order and the first that fails decides the error. Within a comparison the literal is checked before
the operator, and the operator before the field. -/

namespace RecordFilter

/-- A condition on the fields of a record. -/
inductive Predicate where
  | compare (field : String) (op : Comparator) (operand : Value)
  | joined (op : Connective) (left right : Predicate)
  deriving DecidableEq

namespace Predicate

/-- Whether the fields satisfy the predicate. A comparison with a missing or absent value, or
with a value of another kind, does not hold, whatever its operator. -/
def holds (value : String → Option Value) : Predicate → Bool
  | .compare field op operand =>
    match (value field).bind (·.compare operand) with
    | some order => op.accepts order
    | none => false
  | .joined op left right => op.combine (left.holds value) (right.holds value)

/-- The predicate as printed. -/
def display : Predicate → String
  | .compare field op operand => field ++ " " ++ op.symbol ++ " " ++ operand.display
  | .joined op left right =>
    "(" ++ left.display ++ " " ++ op.label ++ " " ++ right.display ++ ")"

end Predicate

/-! ### Operations -/

/-- The types of operations: what they make of a field and an operand, for each type that a field
may have but references. -/
class Operation (ω : Type) where
  enumPredicate : ω → String → EnumVariant → Predicate
  integerPredicate : ω → String → Int64 → Predicate
  textPredicate : ω → String → String → Predicate
  datePredicate : ω → String → Date → Predicate
  timePredicate : ω → String → TimeOfDay → Predicate

/-- The standard operations, which compare the field with the operand. -/
instance : Operation Comparator where
  enumPredicate op field variant := .compare field op (.enum variant)
  integerPredicate op field n := .compare field op (.integer n)
  textPredicate op field s := .compare field op (.text s)
  datePredicate op field d := .compare field op (.date d)
  timePredicate op field t := .compare field op (.time t)

/-! ### Registries -/

/-- The operation that each comparator of a filter stands for, if any. -/
structure Registry (ω : Type := Comparator) where
  meaning : Comparator → Option ω

namespace Registry

/-- The registry in which every comparator stands for itself. -/
def standard : Registry :=
  ⟨some⟩

variable {ω : Type}

/-- The registry in which no comparator has a meaning. -/
def empty : Registry ω :=
  ⟨fun _ => none⟩

/-- Gives a comparator a meaning in place of the one it may have. -/
def register (r : Registry ω) (op : Comparator) (meaning : ω) : Registry ω :=
  ⟨fun other => if other = op then some meaning else r.meaning other⟩

/-- The comparators that have a meaning. -/
def registered (r : Registry ω) : List Comparator :=
  Comparator.all.filter fun op => (r.meaning op).isSome

/-- The name of a comparator in a listing of a registry. -/
def entryName : Comparator → String
  | .eq => "Eq"
  | .ne => "Ne"
  | .gt => "Gt"
  | .lt => "Lt"

/-- The listing of a registry. -/
def display (r : Registry ω) : String :=
  "OperationRegistry \x7b operations: [" ++ ", ".intercalate (r.registered.map entryName)
    ++ "] \x7d"

end Registry

/-! ### From expressions to predicates -/

section compile
variable {ω : Type} [Operation ω]

/-- What an operation makes of a field of this type and a literal. An enumeration reads the text of
any literal as the name of a variant, and a text field reads an integer as its digits. -/
def FieldType.predicate (type : FieldType) (operation : ω) (field : String) (literal : Literal) :
    Except FilterError Predicate :=
  match type, literal with
  | .enum e, literal =>
    match e.variant? literal.asText with
    | some v => .ok (Operation.enumPredicate operation field v)
    | none => .error (.unknownVariant e.name literal.asText)
  | .reference, _ => .error (.unsupportedType type.label)
  | .integer, .integer n => .ok (Operation.integerPredicate operation field n)
  | .text, .integer _ => .ok (Operation.textPredicate operation field literal.asText)
  | .text, .text s => .ok (Operation.textPredicate operation field s)
  | .date, .date d => .ok (Operation.datePredicate operation field d)
  | .time, .time t => .ok (Operation.timePredicate operation field t)
  | _, _ => .error (.incompatible field)

/-- The predicate of one comparison, whose field may be written in any case. -/
def FieldTable.comparison (t : FieldTable) (name : String) (operation : ω) (literal : Literal) :
    Except FilterError Predicate :=
  match t.lookup name with
  | none => .error (.unknownField name (t.suggest name))
  | some field => field.type.predicate operation field.name literal

/-- The predicate that an expression stands for. -/
def Expr.compile (registry : Registry ω) (table : FieldTable) : Expr → Except FilterError Predicate
  | .binary op left right => do
    let left ← left.compile registry table
    let right ← right.compile registry table
    return .joined op left right
  | .comparison field op value => do
    let literal ← value.resolved
    match registry.meaning op with
    | some meaning => table.comparison field meaning literal
    | none => throw (.unsupportedComparator op)

/-- The predicate that a text stands for. -/
def Predicate.ofText (registry : Registry ω) (table : FieldTable) (text : String) :
    Except FilterError Predicate := do
  (← Expr.parse text).compile registry table

end compile

end RecordFilter
