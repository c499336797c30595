import RecordFilter.Proofs.Compilation
import RecordFilter.Proofs.Orders
import RecordFilter.Proofs.PrintedExpr
import RecordFilter.Store

/-! # The meaning of filters

`Expr.selects` is the meaning of an expression, told of the tree itself: connectives join the
conditions of their sides, and a comparison holds of a record that has a value in the named field
which stands in the given relation to the literal.  Nothing here compiles or looks a field up.

For the records of a lawful kind (`LawfulRecord`: field names are distinct and values are of the
declared types) a compiled filter accepts the records that the expression selects
(`matches_of_compile`), so that a search returns these, in the order in which they are stored
(`find_eq_filter_selects`). -/

namespace RecordFilter

/-! ### The meaning of an expression -/

/-- Whether a value of this type stands in a relation to a literal.  Variants of an enumeration
are compared by their places in its declaration, and an integer stands for its decimal spelling
where a text is compared. -/
def FieldType.relates (type : FieldType) (op : Comparator) (v : Value) (l : Literal) : Bool :=
  match type, v, l with
  | .enum e, .enum v, l =>
      match e.variants.idxOf? v.name, e.variants.idxOf? l.asText with
      | some place, some place' => op.relates place place'
      | _, _ => false
  | .integer, .integer m, .integer n => op.relates m.toInt n.toInt
  | .text, .text s, .integer n => op.relates (utf8 s) (utf8 (toString n.toInt))
  | .text, .text s, .text t => op.relates (utf8 s) (utf8 t)
  | .date, .date d, .date d' => op.relates d.key d'.key
  | .time, .time t, .time t' => op.relates t.key t'.key
  | _, _, _ => false

/-- Whether a record has a value in the field that stands in a relation to a literal. -/
def Field.selects {α : Type} [Record α] (f : Field) (op : Comparator) (value : WrittenLiteral)
    (r : α) : Bool :=
  match Record.value r f.name, value with
  | some v, .valid l => f.type.relates op v l
  | _, _ => false

/-- Whether a record satisfies the condition that an expression states. -/
def Expr.selects {α : Type} [Record α] : Expr → α → Bool
  | .binary .and left right, r => left.selects r && right.selects r
  | .binary .or left right, r => left.selects r || right.selects r
  | .comparison name op value, r =>
      (Record.table α).fields.any fun f => sameName f.name name && f.selects op value r

theorem Field.selects_valid {α : Type} [Record α] {f : Field} {r : α} {v : Value}
    (h : Record.value r f.name = some v) (op : Comparator) (l : Literal) :
    f.selects op (.valid l) r = f.type.relates op v l := by
  unfold selects
  rw [h]

/-! ### Lawful records -/

/-- The values that a field of a type can hold; a text may be absent. -/
inductive FieldType.Admits : FieldType → Value → Prop
  | enum {e : EnumType} {v : EnumVariant} : e.variant? v.name = some v → Admits (.enum e) (.enum v)
  | integer (n : Int64) : Admits .integer (.integer n)
  | text (s : String) : Admits .text (.text s)
  | absent : Admits .text .null
  | date (d : Date) : Admits .date (.date d)
  | time (t : TimeOfDay) : Admits .time (.time t)
  | reference (s : String) : Admits .reference (.text s)

/-- A kind of record that keeps to its table: a name belongs to one field in whatever case it is
written, and every record has a value of the declared type in every field. -/
class LawfulRecord (α : Type) [Record α] : Prop where
  eq_of_sameName : ∀ f ∈ (Record.table α).fields, ∀ g ∈ (Record.table α).fields,
    sameName f.name g.name = true → f = g
  admits : ∀ (r : α), ∀ f ∈ (Record.table α).fields,
    ∃ v, Record.value r f.name = some v ∧ f.type.Admits v

theorem Role.variant?_variant (r : Role) : Role.type.variant? r.variant.name = some r.variant := by
  cases r <;> decide

instance : LawfulRecord User where
  eq_of_sameName := by decide
  admits u f hf := by
    simp only [Record.table, User.table, List.mem_cons, List.not_mem_nil, or_false] at hf
    rcases hf with rfl | rfl | rfl | rfl
    · exact ⟨_, rfl, .integer u.id⟩
    · exact ⟨_, rfl, .integer u.version⟩
    · exact ⟨_, rfl, .text u.name⟩
    · exact ⟨_, rfl, .enum u.role.variant?_variant⟩

theorem FieldType.Admits.ofText? (s : Option String) : FieldType.text.Admits (.ofText? s) := by
  cases s with
  | none => exact .absent
  | some s => exact .text s

instance : LawfulRecord Jogging where
  eq_of_sameName := by decide
  admits j f hf := by
    simp only [Record.table, Jogging.table, List.mem_cons, List.not_mem_nil, or_false] at hf
    rcases hf with rfl | rfl | rfl | rfl | rfl | rfl | rfl | rfl | rfl
    · exact ⟨_, rfl, .integer j.id⟩
    · exact ⟨_, rfl, .integer j.version⟩
    · exact ⟨_, rfl, .reference j.user⟩
    · exact ⟨_, rfl, .date j.date⟩
    · exact ⟨_, rfl, .integer j.distance⟩
    · exact ⟨_, rfl, .time j.time⟩
    · exact ⟨_, rfl, .text j.location⟩
    · exact ⟨_, rfl, .ofText? j.averageTemperature⟩
    · exact ⟨_, rfl, .ofText? j.weatherCondition⟩

/-! ### Compiled comparisons -/

theorem sameName_trans {a b c : String} (h : sameName a c = true) (h' : sameName b c = true) :
    sameName a b = true := by
  rw [sameName, beq_iff_eq] at h h' ⊢
  rw [h, h']

theorem any_sameName {α : Type} [Record α] [LawfulRecord α] {name : String} {f : Field}
    (h : (Record.table α).lookup name = some f) (p : Field → Bool) :
    ((Record.table α).fields.any fun g => sameName g.name name && p g) = p f := by
  obtain ⟨hf, hn⟩ := mem_of_lookup h
  rw [Bool.eq_iff_iff, List.any_eq_true]
  constructor
  · rintro ⟨g, hg, h'⟩
    rw [Bool.and_eq_true] at h'
    obtain rfl := LawfulRecord.eq_of_sameName g hg f hf (sameName_trans h'.1 hn)
    exact h'.2
  · intro h'
    exact ⟨f, hf, Bool.and_eq_true_iff.mpr ⟨hn, h'⟩⟩

theorem EnumType.variant?_eq_some_iff {e : EnumType} {name : String} {v : EnumVariant} :
    e.variant? name = some v ↔ e.variants.idxOf? name = some v.ordinal ∧ v.name = name := by
  rw [variant?_eq, Option.map_eq_some_iff]
  constructor
  · rintro ⟨place, h, rfl⟩
    exact ⟨h, rfl⟩
  · rintro ⟨h, rfl⟩
    exact ⟨_, h, rfl⟩

theorem EnumType.compares_ordinal {e : EnumType} {v w : EnumVariant}
    (hv : e.variant? v.name = some v) (hw : e.variant? w.name = some w) :
    (v.compare w).Compares v.ordinal w.ordinal := by
  have hc : (Ord.compare v.ordinal w.ordinal).Compares v.ordinal w.ordinal :=
    (compare_iff _ _).mp rfl
  rw [EnumVariant.compare]
  cases ho : Ord.compare v.ordinal w.ordinal with
  | lt => rwa [ho] at hc
  | gt => rwa [ho] at hc
  | eq =>
      rw [ho] at hc
      obtain ⟨hi, hi'⟩ := List.idxOf?_eq_some_iff.mp (variant?_eq_some_iff.mp hv).1
      obtain ⟨hj, hj'⟩ := List.idxOf?_eq_some_iff.mp (variant?_eq_some_iff.mp hw).1
      have hn : v.name = w.name := by
        rw [← hi'.1, ← hj'.1]
        congr 1
      rw [hn, Std.compare_self]
      exact hc

/-- The outcome of a comparison with the operand of a literal is the relation to the literal. -/
theorem compare_operand {type : FieldType} {l : Literal} {v operand : Value}
    (hv : type.Admits v) (h : type.Denotes l operand) (op : Comparator) :
    (match v.compare operand with
      | some order => op.accepts order
      | none => false) = type.relates op v l := by
  cases h with
  | @enum e l place hp =>
      cases hv with
      | @enum _ v hv =>
          have hw : e.variant? l.asText = some ⟨place, l.asText⟩ :=
            EnumType.variant?_eq_some_iff.mpr ⟨hp, rfl⟩
          rw [FieldType.relates, (EnumType.variant?_eq_some_iff.mp hv).1, hp]
          exact op.accepts_of_compares (EnumType.compares_ordinal hv hw)
  | integer n =>
      cases hv with
      | integer m => exact op.accepts_of_compares (compares_int64 m n)
  | numeral n =>
      cases hv with
      | text s => exact op.accepts_of_compares (compares_utf8 s _)
      | absent => rfl
  | text t =>
      cases hv with
      | text s => exact op.accepts_of_compares (compares_utf8 s t)
      | absent => rfl
  | date d' =>
      cases hv with
      | date d => exact op.accepts_of_compares (d.compares_key d')
  | time t' =>
      cases hv with
      | time t => exact op.accepts_of_compares (t.compares_key t')

theorem matches_of_compile {α : Type} [Record α] [LawfulRecord α] {e : Expr} {p : Predicate}
    (h : e.compile .standard (Record.table α) = .ok p) (r : α) : p.matches r = e.selects r := by
  induction e generalizing p with
  | binary op left right ihl ihr =>
      obtain ⟨q, s, hl, hr, rfl⟩ := compile_binary_eq_ok_iff.mp h
      have h₁ : q.holds (Record.value r) = left.selects r := ihl hl
      have h₂ : s.holds (Record.value r) = right.selects r := ihr hr
      cases op with
      | and => rw [Predicate.matches, Predicate.holds, h₁, h₂]; rfl
      | or => rw [Predicate.matches, Predicate.holds, h₁, h₂]; rfl
  | comparison name op value =>
      obtain ⟨l, meaning, f, operand, rfl, hm, hf, ho, rfl⟩ := compile_comparison_eq_ok_iff.mp h
      obtain rfl : op = meaning := Option.some.inj hm
      obtain ⟨v, hv, ha⟩ := LawfulRecord.admits r f (mem_of_lookup hf).1
      rw [Expr.selects, any_sameName hf, Field.selects_valid hv, Predicate.matches,
        Predicate.holds, hv]
      exact compare_operand ha ho op

/-! ### Searches -/

/-- The query of a filter and an extra predicate asks for the records that satisfy the predicate
and that the expression of the filter selects, as far as these are given. -/
theorem selects_of_ofFilter {α : Type} [Record α] [LawfulRecord α] {filter : Option String}
    {query : Option Expr} (hq : filter.mapM Expr.parse = .ok query)
    (hc : ∀ e ∈ query, ∃ p, e.compile .standard (Record.table α) = .ok p)
    (page : Option Page) (extra : Option Predicate) :
    ∃ p, Query.ofFilter .standard (Record.table α) filter page extra =
        .ok ⟨p, page.map Page.window⟩ ∧
      ∀ r : α, Query.selects ⟨p, page.map Page.window⟩ r =
        (extra.all (·.matches r) && query.all (·.selects r)) := by
  cases filter with
  | none =>
      obtain rfl : none = query := Except.ok.inj hq
      refine ⟨extra, rfl, fun r => ?_⟩
      cases extra with
      | none => rfl
      | some q => exact (Bool.and_true _).symm
  | some text =>
      cases ht : Expr.parse text with
      | error err =>
          rw [Option.mapM_some, ht] at hq
          cases hq
      | ok e =>
          rw [Option.mapM_some, ht] at hq
          obtain rfl : some e = query := Except.ok.inj hq
          obtain ⟨p, hp⟩ := hc e rfl
          have hb : Predicate.ofText .standard (Record.table α) text = .ok p := by
            rw [Predicate.ofText, ht]
            exact hp
          cases extra with
          | none =>
              refine ⟨some p, by rw [Query.ofFilter, hb]; rfl, fun r => ?_⟩
              exact matches_of_compile hp r
          | some q =>
              refine ⟨some (.joined .and q p), by rw [Query.ofFilter, hb]; rfl, fun r => ?_⟩
              exact congrArg (q.matches r && ·) (matches_of_compile hp r)

theorem find_eq_filter {α : Type} [Record α] [LawfulRecord α] {filter : Option String}
    {query : Option Expr} (hq : filter.mapM Expr.parse = .ok query)
    (hc : ∀ e ∈ query, ∃ p, e.compile .standard (Record.table α) = .ok p)
    (extra : Option Predicate) (records : List α) :
    find .standard records filter none extra =
      .ok (records.filter fun r => extra.all (·.matches r) && query.all (·.selects r)) := by
  obtain ⟨p, hp, hr⟩ := selects_of_ofFilter hq hc none extra
  rw [find, hp]
  exact congrArg (fun s : α → Bool => Except.ok (records.filter s)) (funext hr)

/-- **A search returns what its filter means.**  If the filter text, when it is given, is read as an
expression that compiles, then a search without a page returns the stored records that satisfy the
extra predicate and that the expression selects, each as often and in the order as it is
stored. -/
theorem find_eq_filter_selects {filter : Option String} {query : Option Expr}
    (hq : filter.mapM Expr.parse = .ok query) (extra : Option Predicate) :
    ((∀ e ∈ query, ∃ p, e.compile .standard User.table = .ok p) → ∀ users : List User,
      find .standard users filter none extra =
        .ok (users.filter fun u => extra.all (·.matches u) && query.all (·.selects u))) ∧
    ((∀ e ∈ query, ∃ p, e.compile .standard Jogging.table = .ok p) → ∀ joggings : List Jogging,
      find .standard joggings filter none extra =
        .ok (joggings.filter fun j => extra.all (·.matches j) && query.all (·.selects j))) :=
  ⟨fun hc users => find_eq_filter hq hc extra users,
    fun hc joggings => find_eq_filter hq hc extra joggings⟩

/-- Roles are compared by rank and names by bytes; an integer stands for its digits, and an absent
value does not even differ from a text. -/
theorem find_role_and_weather :
    find .standard [⟨1, 0, "Alice", .admin⟩, ⟨2, 0, "Bob", .user⟩, ⟨3, 0, "Carol", .manager⟩,
        ⟨4, 0, "dave", .admin⟩]
      (some "((ROLE gt 'USER') AND (name lt 'bob'))") none
      (some (.compare "id" .gt (.integer 1))) = .ok [(⟨3, 0, "Carol", .manager⟩ : User)] ∧
    find .standard [⟨1, 0, "alice", ⟨2019, 3, 27, by decide⟩, 1000, ⟨1, 0, 0, 0, by decide⟩, "7",
          none, none⟩,
        ⟨2, 0, "alice", ⟨2019, 3, 28, by decide⟩, 1000, ⟨1, 0, 0, 0, by decide⟩, "Minsk",
          none, none⟩]
      (some "((weatherCondition ne 'sunny') OR (location eq 7))") none none =
        .ok [(⟨1, 0, "alice", ⟨2019, 3, 27, by decide⟩, 1000, ⟨1, 0, 0, 0, by decide⟩, "7",
          none, none⟩ : Jogging)] := by
  let e : Expr := .binary .and (.comparison "ROLE" .gt (.valid (.text "USER")))
    (.comparison "name" .lt (.valid (.text "bob")))
  let e' : Expr := .binary .or (.comparison "weatherCondition" .ne (.valid (.text "sunny")))
    (.comparison "location" .eq (.valid (.integer 7)))
  have hr : IsFieldName "ROLE" := lexeme_identifier_iff.mp
    (Lexeme.word_of_all 'R' ['O', 'L', 'E'] (by decide +kernel) (by decide +kernel))
  have hn : IsFieldName "name" := lexeme_identifier_iff.mp
    (Lexeme.word_of_all 'n' ['a', 'm', 'e'] (by decide +kernel) (by decide +kernel))
  have hw : IsFieldName "weatherCondition" := lexeme_identifier_iff.mp
    (Lexeme.word_of_all 'w' "eatherCondition".toList (by decide +kernel) (by decide +kernel))
  have hl : IsFieldName "location" := lexeme_identifier_iff.mp
    (Lexeme.word_of_all 'l' "ocation".toList (by decide +kernel) (by decide +kernel))
  have ht (s : String) (hq : '\'' ∉ s.toList) (hs : quotedShape s.toList = .text) (field : String) :
      (WrittenLiteral.valid (.text s)).WellFormed field :=
    ⟨hq, fun h => by simp [quotedShape_of_date h] at hs,
      fun h => by simp [quotedShape_of_time h] at hs⟩
  have he : e.WellFormed :=
    ⟨⟨hr, ht "USER" (by decide) (by decide) _⟩, ⟨hn, ht "bob" (by decide) (by decide) _⟩⟩
  have he' : e'.WellFormed := ⟨⟨hw, ht "sunny" (by decide) (by decide) _⟩, ⟨hl, trivial⟩⟩
  have hd : e.display = "((ROLE gt 'USER') AND (name lt 'bob'))" := by decide +kernel
  have hd' : e'.display = "((weatherCondition ne 'sunny') OR (location eq 7))" := by
    decide +kernel
  rw [← hd, ← hd']
  constructor
  · have hq : (some e.display).mapM Expr.parse = .ok (some e) := by
      rw [Option.mapM_some, parse_display he]
      rfl
    rw [(find_eq_filter_selects hq _).1 (by rintro _ ⟨⟩; exact ⟨_, rfl⟩)]
    decide +kernel
  · have hq : (some e'.display).mapM Expr.parse = .ok (some e') := by
      rw [Option.mapM_some, parse_display he']
      rfl
    rw [(find_eq_filter_selects hq _).2 (by rintro _ ⟨⟩; exact ⟨_, rfl⟩)]
    decide +kernel

end RecordFilter
