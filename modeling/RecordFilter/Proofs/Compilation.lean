import RecordFilter.Predicate
import RecordFilter.Proofs.Numerals
import RecordFilter.Store

/-! # What a comparison compiles to

`FieldType.Denotes` is the table of the operands that literals denote for the types of fields, and
compiling hands such an operand to the operation of the comparator (`predicate_eq_ok_iff`).  With
the standard operations, a comparison whose literal has a value, whose comparator has a meaning and
whose field is in the table becomes the comparison of that field, under its declared name, with the
operand (`compile_comparison_eq_ok_iff`).  What is rejected, and with which error, is the same for
every operation (`predicate_eq_error_iff`).

A search by a text asks the query to which the text compiles, or fails with the error of the text
(`find_eq_map_ofText`). -/

namespace RecordFilter

/-- The text that an integer stands for is its decimal spelling. -/
theorem Literal.asText_integer (n : Int64) : (Literal.integer n).asText = toString n.toInt := by
  have h (m : Nat) : String.ofList (numeral m) = m.repr := Nat.repr_eq_ofList_toDigits.symm
  rw [Literal.asText, integerText, Int.toString_eq_repr, Int.repr_eq_if]
  by_cases hn : n.toInt < 0
  · rw [if_pos hn, if_neg (by omega), ← h, String.ofList_cons]
    congr 3
    omega
  · rw [if_neg hn, if_pos (by omega), ← h]
    congr 2
    omega

/-- The operand that a literal denotes for a field of a type. -/
inductive FieldType.Denotes : FieldType → Literal → Value → Prop
  | enum {e : EnumType} {l : Literal} {place : Nat} :
      e.variants.idxOf? l.asText = some place → Denotes (.enum e) l (.enum ⟨place, l.asText⟩)
  | integer (n : Int64) : Denotes .integer (.integer n) (.integer n)
  | numeral (n : Int64) : Denotes .text (.integer n) (.text (toString n.toInt))
  | text (s : String) : Denotes .text (.text s) (.text s)
  | date (d : Date) : Denotes .date (.date d) (.date d)
  | time (t : TimeOfDay) : Denotes .time (.time t) (.time t)

theorem EnumType.variant?_eq (e : EnumType) (name : String) :
    e.variant? name = (e.variants.idxOf? name).map (⟨·, name⟩) := by
  rfl

/-- What is wrong with a literal for a field of a type.  Only what has no operand in a field of
another type than an enumeration or a reference is called incompatible with the field. -/
inductive FieldType.Rejects (field : String) : FieldType → Literal → FilterError → Prop
  | variant {e : EnumType} {l : Literal} (h : l.asText ∉ e.variants) :
      Rejects field (.enum e) l (.unknownVariant e.name l.asText)
  | reference (l : Literal) : Rejects field .reference l (.unsupportedType "reference")
  | kind {type : FieldType} {l : Literal} (he : ∀ e, type ≠ .enum e) (hr : type ≠ .reference)
      (h : ∀ v, ¬ type.Denotes l v) : Rejects field type l (.incompatible field)

/-- What an operation makes of a field and an operand. -/
inductive Operation.Builds {ω : Type} [Operation ω] (operation : ω) (field : String) :
    Value → Predicate → Prop
  | enum (v : EnumVariant) : Builds operation field (.enum v) (enumPredicate operation field v)
  | integer (n : Int64) : Builds operation field (.integer n) (integerPredicate operation field n)
  | text (s : String) : Builds operation field (.text s) (textPredicate operation field s)
  | date (d : Date) : Builds operation field (.date d) (datePredicate operation field d)
  | time (t : TimeOfDay) : Builds operation field (.time t) (timePredicate operation field t)

/-! ### Operands -/

section predicate
variable {ω : Type} [Operation ω] {type : FieldType} {field : String} {l : Literal} {v : Value}
  {p : Predicate}

theorem FieldType.Denotes.exists_builds (h : type.Denotes l v) (operation : ω) (field : String) :
    ∃ p, Operation.Builds operation field v p := by
  cases h
  all_goals exact ⟨_, by constructor⟩

/-- A standard operation compares the field with the operand. -/
theorem FieldType.Denotes.builds_iff (h : type.Denotes l v) {op : Comparator} :
    Operation.Builds op field v p ↔ p = .compare field op v := by
  constructor
  · rintro ⟨⟩
    all_goals rfl
  · rintro rfl
    cases h
    all_goals constructor

theorem predicate_eq_ok_iff {operation : ω} :
    type.predicate operation field l = .ok p ↔
      ∃ v, type.Denotes l v ∧ Operation.Builds operation field v p := by
  constructor
  · intro h
    cases type with
    | enum e =>
        rw [FieldType.predicate, EnumType.variant?_eq] at h
        cases hp : e.variants.idxOf? l.asText with
        | none =>
            rw [hp] at h
            cases h
        | some place =>
            rw [hp] at h
            cases h
            exact ⟨_, .enum hp, .enum _⟩
    | text =>
        cases l with
        | integer n =>
            rw [FieldType.predicate, Literal.asText_integer] at h
            cases h
            exact ⟨_, .numeral n, .text _⟩
        | text s =>
            cases h
            exact ⟨_, .text s, .text s⟩
        | date d => cases h
        | time t => cases h
    | integer | date | time =>
        cases l
        all_goals cases h
        exact ⟨_, by constructor, by constructor⟩
    | reference => cases h
  · rintro ⟨v, h, hbuilds⟩
    cases h with
    | @enum e l place h =>
        cases hbuilds
        rw [FieldType.predicate, EnumType.variant?_eq, h]
        rfl
    | numeral n =>
        cases hbuilds
        rw [FieldType.predicate, Literal.asText_integer]
    | integer n | text s | date d | time t =>
        cases hbuilds
        rfl

theorem FieldType.Rejects.isSyntax {err : FilterError} (h : type.Rejects field l err) :
    err.isSyntax = false := by
  cases h <;> rfl

/-- A literal that has no operand in a field of a scalar type is incompatible with the field. -/
theorem predicate_of_scalar (he : ∀ e, type ≠ .enum e) (hr : type ≠ .reference) (operation : ω) :
    type.predicate operation field l = .error (.incompatible field) ∨
      ∃ p, type.predicate operation field l = .ok p := by
  cases type with
  | enum e => exact absurd rfl (he e)
  | reference => exact absurd rfl hr
  | integer | text | date | time => cases l <;> simp [FieldType.predicate]

/-- No literal is accepted or rejected because of the operation. -/
theorem predicate_eq_error_iff {operation : ω} {err : FilterError} :
    type.predicate operation field l = .error err ↔ type.Rejects field l err := by
  constructor
  · intro h
    have hv : ∀ v, ¬ type.Denotes l v := fun v hv => by
      obtain ⟨p, hp⟩ := hv.exists_builds operation field
      rw [predicate_eq_ok_iff.mpr ⟨v, hv, hp⟩] at h
      cases h
    have hs (he : ∀ e, type ≠ .enum e) (hr : type ≠ .reference) : type.Rejects field l err := by
      obtain h' | ⟨p, h'⟩ := predicate_of_scalar he hr operation
      · rw [h] at h'
        cases h'
        exact .kind he hr hv
      · rw [h] at h'
        cases h'
    cases type with
    | enum e =>
        rw [FieldType.predicate, EnumType.variant?_eq] at h
        cases hp : e.variants.idxOf? l.asText with
        | none =>
            rw [hp] at h
            cases h
            exact .variant (List.idxOf?_eq_none_iff.mp hp)
        | some place => exact absurd (.enum hp) (hv _)
    | reference =>
        cases h
        exact .reference l
    | integer | text | date | time => exact hs (fun _ h => nomatch h) (fun h => nomatch h)
  · intro h
    cases h with
    | @variant e l h =>
        rw [FieldType.predicate, EnumType.variant?_eq, List.idxOf?_eq_none_iff.mpr h]
        rfl
    | reference l => rfl
    | kind he hr h =>
        obtain h' | ⟨p, h'⟩ := predicate_of_scalar he hr operation
        · exact h'
        · obtain ⟨v, hv, -⟩ := predicate_eq_ok_iff.mp h'
          exact absurd hv (h v)

end predicate

/-! ### Comparisons -/

theorem mem_of_lookup {table : FieldTable} {name : String} {f : Field}
    (h : table.lookup name = some f) : f ∈ table.fields ∧ sameName f.name name = true := by
  rw [FieldTable.lookup] at h
  exact ⟨List.mem_of_find?_eq_some h, by simpa using List.find?_some h⟩

theorem lookup_eq_none_iff {table : FieldTable} {name : String} :
    table.lookup name = none ↔ ∀ f ∈ table.fields, sameName f.name name = false := by
  rw [FieldTable.lookup, List.find?_eq_none]
  simp only [Bool.not_eq_true]

section comparison
variable {ω : Type} [Operation ω] {table : FieldTable} {name : String} {operation : ω} {l : Literal}

theorem comparison_eq_ok_iff {p : Predicate} :
    table.comparison name operation l = .ok p ↔ ∃ field v, table.lookup name = some field ∧
      field.type.Denotes l v ∧ Operation.Builds operation field.name v p := by
  rw [FieldTable.comparison]
  cases table.lookup name with
  | none => simp
  | some field => simp [predicate_eq_ok_iff]

theorem comparison_eq_error_iff {err : FilterError} :
    table.comparison name operation l = .error err ↔
      (∀ f ∈ table.fields, sameName f.name name = false) ∧
          err = .unknownField name (table.suggest name) ∨
        ∃ f, table.lookup name = some f ∧ f.type.Rejects f.name l err := by
  rw [FieldTable.comparison, ← lookup_eq_none_iff]
  cases table.lookup name with
  | none => simp [eq_comm]
  | some f => simp [predicate_eq_error_iff]

theorem comparison_of_enum {f : Field} {e : EnumType} (hf : table.lookup name = some f)
    (he : f.type = .enum e) (operation : ω) (l : Literal) :
    table.comparison name operation l = match e.variants.idxOf? l.asText with
      | some place => .ok (Operation.enumPredicate operation f.name ⟨place, l.asText⟩)
      | none => .error (.unknownVariant e.name l.asText) := by
  rw [FieldTable.comparison, hf]
  change f.type.predicate operation f.name l = _
  rw [he, FieldType.predicate, EnumType.variant?_eq]
  cases e.variants.idxOf? l.asText <;> rfl

end comparison

/-! ### Expressions -/

section compile
variable {ω : Type} [Operation ω] {registry : Registry ω} {table : FieldTable}

theorem compile_valid (name : String) (op : Comparator) (l : Literal) :
    (Expr.comparison name op (.valid l)).compile registry table =
      match registry.meaning op with
      | some meaning => table.comparison name meaning l
      | none => .error (.unsupportedComparator op) := rfl

theorem compile_invalid (name : String) (op : Comparator) (text : String) (err : FilterError) :
    (Expr.comparison name op (.invalid text err)).compile registry table = .error err := rfl

theorem compile_comparison_eq_ok_iff {registry : Registry} {name : String} {op : Comparator}
    {value : WrittenLiteral} {p : Predicate} :
    (Expr.comparison name op value).compile registry table = .ok p ↔
      ∃ l meaning field v, value = .valid l ∧ registry.meaning op = some meaning ∧
        table.lookup name = some field ∧ field.type.Denotes l v ∧
        p = .compare field.name meaning v := by
  cases value with
  | invalid text err =>
      constructor
      · intro h
        cases h
      · rintro ⟨l, _, _, _, h, -⟩
        cases h
  | valid l =>
      rw [compile_valid]
      cases registry.meaning op with
      | none => simp
      | some meaning =>
          refine comparison_eq_ok_iff.trans ?_
          constructor
          · rintro ⟨f, v, hf, hv, hp⟩
            exact ⟨l, meaning, f, v, rfl, rfl, hf, hv, hv.builds_iff.mp hp⟩
          · rintro ⟨l', _, f, v, hl, ⟨⟩, hf, hv, hp⟩
            obtain rfl := WrittenLiteral.valid.inj hl
            exact ⟨f, v, hf, hv, hv.builds_iff.mpr hp⟩

theorem compile_binary_eq_ok_iff {op : Connective} {l r : Expr} {p : Predicate} :
    (Expr.binary op l r).compile registry table = .ok p ↔
      ∃ q s, l.compile registry table = .ok q ∧ r.compile registry table = .ok s ∧
        p = .joined op q s := by
  rw [Expr.compile]
  cases hl : l.compile registry table with
  | error err => simp [bind, Except.bind]
  | ok q =>
      cases hr : r.compile registry table with
      | error err => simp [bind, Except.bind]
      | ok s => simp [bind, Except.bind, pure, Except.pure, eq_comm]

/-! ### Texts -/

section text
variable {text : String}

theorem ofText_of_parse_error {err : FilterError} (h : Expr.parse text = .error err) :
    Predicate.ofText registry table text = .error err := by
  rw [Predicate.ofText, h]
  rfl

theorem ofText_of_parse {e : Expr} (h : Expr.parse text = .ok e) :
    Predicate.ofText registry table text = e.compile registry table := by
  rw [Predicate.ofText, h]
  rfl

end text

end compile

/-! ### Searches by a text -/

section find
variable {ω : Type} [Operation ω] {α : Type} [Record α]

/-- A search by a text fails with the error of the text, or else asks a query. -/
theorem find_eq_map_ofText (registry : Registry ω) (records : List α) (text : String)
    (page : Option Page) (extra : Option Predicate) :
    find registry records (some text) page extra =
      (Predicate.ofText registry (Record.table α) text).map fun p =>
        (Query.mk (some (extra.elim p fun extra => .joined .and extra p))
          (page.map Page.window)).run records := by
  rw [find, Query.ofFilter]
  cases Predicate.ofText registry (Record.table α) text with
  | error err => rfl
  | ok p => cases extra <;> rfl

variable {registry : Registry ω} {records : List α} {text : String} {page : Option Page}
  {extra : Option Predicate}

theorem find_eq_error_iff {err : FilterError} :
    find registry records (some text) page extra = .error err ↔
      Predicate.ofText registry (Record.table α) text = .error err := by
  rw [find_eq_map_ofText]
  cases Predicate.ofText registry (Record.table α) text <;> simp [Except.map]

theorem exists_find_eq_ok_iff :
    (∃ found, find registry records (some text) page extra = .ok found) ↔
      ∃ p, Predicate.ofText registry (Record.table α) text = .ok p := by
  rw [find_eq_map_ofText]
  cases Predicate.ofText registry (Record.table α) text <;> simp [Except.map]

theorem find_congr_parse {e : Expr} {text' : String} (h : Expr.parse text = .ok e)
    (h' : Expr.parse text' = .ok e) :
    find registry records (some text') page extra =
      find registry records (some text) page extra := by
  rw [find_eq_map_ofText, find_eq_map_ofText, ofText_of_parse h, ofText_of_parse h']

end find

end RecordFilter
