import RecordFilter.Proofs.Meaning

/-! # The types of compiled filters

A compiled filter compares fields only with values that they can hold: the comparisons at its leaves
name declared fields as they are declared, and their operands are of the declared types
(`wellTyped_of_ofText`).  Since records keep to their tables (`LawfulRecord`), such a comparison has
an outcome on every record except where a text is absent (`Leaf.WellTyped.outcome_eq_none_iff`).

So no comparison fails for want of a field or because its sides are of different kinds, and no
filter tells sessions apart by their owners, while every other field can be compared
(`ofText_type_sound`). -/

namespace RecordFilter

/-! ### The leaves of a predicate -/

theorem Connective.combine_mono {op : Connective} {a b a' b' : Bool} (ha : a = true → a' = true)
    (hb : b = true → b' = true) (h : op.combine a b = true) : op.combine a' b' = true := by
  cases op with
  | and =>
      have h' := Bool.and_eq_true_iff.mp h
      exact Bool.and_eq_true_iff.mpr ⟨ha h'.1, hb h'.2⟩
  | or => exact Bool.or_eq_true_iff.mpr ((Bool.or_eq_true_iff.mp h).imp ha hb)

/-- A leaf of a predicate: the comparison of a field with a value. -/
structure Leaf where
  field : String
  op : Comparator
  operand : Value
  deriving DecidableEq

namespace Predicate

/-- The leaves of a predicate, in the order in which they are printed. -/
def leaves : Predicate → List Leaf
  | .compare field op operand => [⟨field, op, operand⟩]
  | .joined _ left right => left.leaves ++ right.leaves

theorem holds_congr {value value' : String → Option Value} {p : Predicate}
    (h : ∀ c ∈ p.leaves, value c.field = value' c.field) : p.holds value = p.holds value' := by
  induction p with
  | compare field op operand =>
      have hf : value field = value' field := h _ (List.mem_singleton_self _)
      rw [holds, holds, hf]
  | joined op left right ihl ihr =>
      have hl := ihl fun c hc => h c (List.mem_append_left _ hc)
      have hr := ihr fun c hc => h c (List.mem_append_right _ hc)
      rw [holds, holds, hl, hr]

end Predicate

/-! ### Types of leaves -/

/-- The operands for a field of a type: the values of its kind, and for an enumeration its
variants, each with its place in the declaration.  A reference has none. -/
inductive FieldType.Takes : FieldType → Value → Prop
  | enum {e : EnumType} {v : EnumVariant} :
      e.variants[v.ordinal]? = some v.name → Takes (.enum e) (.enum v)
  | integer (n : Int64) : Takes .integer (.integer n)
  | text (s : String) : Takes .text (.text s)
  | date (d : Date) : Takes .date (.date d)
  | time (t : TimeOfDay) : Takes .time (.time t)

/-- Whether a leaf compares a declared field, by its declared name, with an operand of the field's
type, which is not a reference. -/
def Leaf.WellTyped (table : FieldTable) (c : Leaf) : Prop :=
  ∃ f ∈ table.fields, f.name = c.field ∧ f.type ≠ .reference ∧ f.type.Takes c.operand

theorem FieldType.Denotes.takes {type : FieldType} {l : Literal} {v : Value}
    (h : type.Denotes l v) : type.Takes v := by
  cases h with
  | enum hp =>
      obtain ⟨hi, ha, -⟩ := List.idxOf?_eq_some_iff.mp hp
      exact .enum (List.getElem?_eq_some_iff.mpr ⟨hi, ha⟩)
  | integer n => exact .integer n
  | numeral n => exact .text _
  | text s => exact .text s
  | date d => exact .date d
  | time t => exact .time t

theorem FieldType.Takes.ne_reference {type : FieldType} {v : Value} (h : type.Takes v) :
    type ≠ .reference := by
  rintro rfl
  cases h

section compile
variable {registry : Registry} {table : FieldTable}

/-- The leaves of a compiled expression are well typed, whatever the comparators mean. -/
theorem wellTyped_of_compile {e : Expr} {p : Predicate} (h : e.compile registry table = .ok p) :
    ∀ c ∈ p.leaves, c.WellTyped table := by
  induction e generalizing p with
  | binary op left right ihl ihr =>
      obtain ⟨q, s, hl, hr, rfl⟩ := compile_binary_eq_ok_iff.mp h
      intro c hc
      rcases List.mem_append.mp hc with hc | hc
      · exact ihl hl c hc
      · exact ihr hr c hc
  | comparison name op value =>
      obtain ⟨l, meaning, f, v, -, -, hf, hv, rfl⟩ := compile_comparison_eq_ok_iff.mp h
      intro c hc
      obtain rfl := List.mem_singleton.mp hc
      exact ⟨f, (mem_of_lookup hf).1, rfl, hv.takes.ne_reference, hv.takes⟩

theorem wellTyped_of_ofText {text : String} {p : Predicate}
    (h : Predicate.ofText registry table text = .ok p) :
    ∀ c ∈ p.leaves, c.WellTyped table := by
  cases he : Expr.parse text with
  | error err =>
      rw [ofText_of_parse_error he] at h
      cases h
  | ok e =>
      rw [ofText_of_parse he] at h
      exact wellTyped_of_compile h

/-- A field can be compared by every comparator that has a meaning, if its name and a literal for
its type can be written. -/
theorem exists_ofText {f : Field} {op meaning : Comparator} {l : Literal} {v : Value}
    (hf : table.lookup f.name = some f) (hn : IsFieldName f.name)
    (hl : (WrittenLiteral.valid l).WellFormed f.name) (hv : f.type.Denotes l v)
    (hm : registry.meaning op = some meaning) :
    ∃ text, Predicate.ofText registry table text = .ok (.compare f.name meaning v) := by
  let e : Expr := .comparison f.name op (.valid l)
  have he : e.WellFormed := ⟨hn, hl⟩
  refine ⟨e.display, ?_⟩
  rw [ofText_of_parse (parse_display he)]
  exact compile_comparison_eq_ok_iff.mpr ⟨l, meaning, f, v, rfl, hm, hf, hv, rfl⟩

end compile

/-! ### Outcomes -/

/-- How the value of a record's field compares with the operand, if the two compare at all. -/
def Leaf.outcome {α : Type} [Record α] (c : Leaf) (r : α) : Option Ordering :=
  (Record.value r c.field).bind (·.compare c.operand)

/-- The comparator that a field passes which stands in the order `o` to the operand. -/
def Comparator.ofOrdering : Ordering → Comparator
  | .lt => .lt
  | .eq => .eq
  | .gt => .gt

theorem Comparator.accepts_iff {op : Comparator} (h : op ≠ .ne) (o : Ordering) :
    op.accepts o = true ↔ op = ofOrdering o := by
  cases op with
  | ne => exact absurd rfl h
  | eq | gt | lt => cases o <;> decide

section outcome
variable {α : Type} [Record α] {c : Leaf}

theorem existsUnique_matches {r : α} (h : c.outcome r ≠ none) :
    ∃! op : Comparator, op ≠ .ne ∧ (Predicate.compare c.field op c.operand).matches r = true := by
  obtain ⟨o, ho⟩ := Option.ne_none_iff_exists'.mp h
  have hm (op : Comparator) :
      (Predicate.compare c.field op c.operand).matches r = op.accepts o := by
    unfold Leaf.outcome at ho
    rw [Predicate.matches, Predicate.holds, ho]
  simp only [hm]
  refine ⟨.ofOrdering o, ?_, fun op hop => (Comparator.accepts_iff hop.1 o).mp hop.2⟩
  cases o <;> decide

theorem compare_eq_none_iff {type : FieldType} {v operand : Value} (hv : type.Admits v)
    (ho : type.Takes operand) : v.compare operand = none ↔ v = .null := by
  cases ho <;> cases hv <;> simp [Value.compare]

/-- A well-typed leaf has an outcome on every record whose value is not absent; the field is never
missing. -/
theorem Leaf.WellTyped.outcome_eq_none_iff [LawfulRecord α]
    (h : c.WellTyped (Record.table α)) (r : α) :
    c.outcome r = none ↔ Record.value r c.field = some .null := by
  obtain ⟨f, hf, hn, -, ho⟩ := h
  obtain ⟨v, hv, ha⟩ := LawfulRecord.admits r f hf
  rw [hn] at hv
  rw [outcome, hv, Option.bind_some, compare_eq_none_iff ha ho, Option.some_inj]

end outcome

/-! ### Absent values and owners -/

theorem User.value_ne_null (u : User) (field : String) : u.value field ≠ some .null := by
  unfold value
  split <;> simp

theorem Value.ofText?_eq_null_iff {s : Option String} : ofText? s = .null ↔ s = none := by
  cases s <;> simp [ofText?]

theorem Jogging.value_eq_null_iff (j : Jogging) (field : String) :
    j.value field = some .null ↔
      field = "averageTemperature" ∧ j.averageTemperature = none ∨
        field = "weatherCondition" ∧ j.weatherCondition = none := by
  unfold value
  split <;> simp_all [Value.ofText?_eq_null_iff]

theorem Jogging.value_of_ne_user {field : String} (h : field ≠ "user") (j : Jogging)
    (owner : String) : ({ j with user := owner } : Jogging).value field = j.value field := by
  unfold value
  split <;> first | rfl | exact absurd rfl h

theorem Leaf.WellTyped.ne_user {c : Leaf} (h : c.WellTyped Jogging.table) :
    c.field ≠ "user" := by
  obtain ⟨f, hf, hn, hr, -⟩ := h
  have hu : ∀ f ∈ Jogging.table.fields, f.name = "user" → f.type = .reference := by decide
  intro hc
  exact hr (hu f hf (hn.trans hc))

/-! ### Compiled filters -/

theorem standard_fields : ∀ table ∈ [User.table, Jogging.table], ∀ f ∈ table.fields,
    table.lookup f.name = some f ∧ IsFieldName f.name ∧
      (f.type = .reference ∨ f.type ∈ [.integer, .text, .date, .time, .enum Role.type]) := by
  decide +kernel

theorem exists_denotes {type : FieldType}
    (h : type ∈ [.integer, .text, .date, .time, .enum Role.type]) (field : String) :
    ∃ l v, (WrittenLiteral.valid l).WellFormed field ∧ type.Denotes l v := by
  simp only [List.mem_cons, List.not_mem_nil, or_false] at h
  rcases h with rfl | rfl | rfl | rfl | rfl
  · exact ⟨.integer 0, _, trivial, .integer 0⟩
  · exact ⟨.integer 0, _, trivial, .numeral 0⟩
  · exact ⟨.date ⟨2000, 1, 1, by decide⟩, _, ⟨by decide, by decide⟩, .date _⟩
  · exact ⟨.time ⟨0, 0, 0, 0, by decide⟩, _, rfl, .time _⟩
  · exact ⟨.text "USER", _, wellFormed_text (by decide) (by decide), .enum rfl⟩

/-- **Compiled filters are well typed.**  Whatever the comparators of the registry mean, a filter
that compiles for a table compares declared fields, by their declared names, with operands of their
types, and none that is a reference.  On users every comparison then has an outcome, so that exactly
one of `eq`, `gt` and `lt` holds; on sessions it has none only where it reads the temperature or the
weather and this was not recorded.  A session's owner has no influence on a filter.  Every field
that is no reference can be compared, by every comparator that has a meaning. -/
theorem ofText_type_sound (registry : Registry) :
    (∀ text p, Predicate.ofText registry User.table text = .ok p →
      ∀ c ∈ p.leaves, c.WellTyped User.table ∧ ∀ u : User, c.outcome u ≠ none ∧
        ∃! op : Comparator, op ≠ .ne ∧
          (Predicate.compare c.field op c.operand).matches u = true) ∧
    (∀ text p, Predicate.ofText registry Jogging.table text = .ok p →
      (∀ c ∈ p.leaves, c.WellTyped Jogging.table ∧ c.field ≠ "user" ∧ ∀ j : Jogging,
        (c.outcome j = none ↔ c.field = "averageTemperature" ∧ j.averageTemperature = none ∨
          c.field = "weatherCondition" ∧ j.weatherCondition = none) ∧
        (c.outcome j ≠ none → ∃! op : Comparator, op ≠ .ne ∧
          (Predicate.compare c.field op c.operand).matches j = true)) ∧
      ∀ (j : Jogging) (owner : String), p.matches { j with user := owner } = p.matches j) ∧
    (∀ table ∈ [User.table, Jogging.table], ∀ f ∈ table.fields, f.type ≠ .reference →
      ∀ op meaning, registry.meaning op = some meaning →
        ∃ text v, Predicate.ofText registry table text = .ok (.compare f.name meaning v)) := by
  refine ⟨fun text p h c hc => ?_, fun text p h => ⟨fun c hc => ?_, fun j owner => ?_⟩, ?_⟩
  · have ht : c.WellTyped (Record.table User) := wellTyped_of_ofText h c hc
    refine ⟨ht, fun u => ?_⟩
    have ho : c.outcome u ≠ none := mt (ht.outcome_eq_none_iff u).mp (u.value_ne_null c.field)
    exact ⟨ho, existsUnique_matches ho⟩
  · have ht : c.WellTyped (Record.table Jogging) := wellTyped_of_ofText h c hc
    refine ⟨ht, ht.ne_user, fun j => ⟨?_, existsUnique_matches⟩⟩
    exact (ht.outcome_eq_none_iff j).trans (j.value_eq_null_iff c.field)
  · refine Predicate.holds_congr fun c hc => ?_
    exact Jogging.value_of_ne_user (wellTyped_of_ofText h c hc).ne_user j owner
  · intro table ht f hf hr op meaning hm
    obtain ⟨hlookup, hn, htype⟩ := standard_fields table ht f hf
    obtain ⟨l, v, hl, hv⟩ := exists_denotes (htype.resolve_left hr) f.name
    obtain ⟨text, h⟩ := exists_ofText hlookup hn hl hv hm
    exact ⟨text, v, h⟩

/-- Under a registry in which `gt` means `lt`, the role is compared under its declared name with a
declared role; a temperature that was not recorded does not even differ from a text. -/
theorem ofText_type_sound_absent :
    Predicate.ofText (Registry.standard.register .gt .lt) User.table "(ROLE gt 'MANAGER')" =
        .ok (.compare "role" .lt (.enum ⟨1, "MANAGER"⟩)) ∧
      (Leaf.mk "role" .lt (.enum ⟨1, "MANAGER"⟩)).WellTyped User.table ∧
      (Leaf.mk "role" .lt (.enum ⟨1, "MANAGER"⟩)).outcome
        (⟨4, 0, "dave", .admin⟩ : User) ≠ none ∧
    Predicate.ofText .standard Jogging.table "(averagetemperature ne 20)" =
        .ok (.compare "averageTemperature" .ne (.text "20")) ∧
      (Leaf.mk "averageTemperature" .ne (.text "20")).outcome
        (⟨1, 0, "alice", ⟨2019, 3, 27, by decide⟩, 1000, ⟨1, 0, 0, 0, by decide⟩, "Minsk", none,
          none⟩ : Jogging) = none := by
  let e : Expr := .comparison "ROLE" .gt (.valid (.text "MANAGER"))
  let e' : Expr := .comparison "averagetemperature" .ne (.valid (.integer 20))
  have he : e.WellFormed := ⟨by decide +kernel, wellFormed_text (by decide) (by decide)⟩
  have he' : e'.WellFormed := ⟨by decide +kernel, trivial⟩
  have hd : e.display = "(ROLE gt 'MANAGER')" := by decide +kernel
  have hd' : e'.display = "(averagetemperature ne 20)" := by decide +kernel
  have hp : Predicate.ofText (Registry.standard.register .gt .lt) User.table e.display =
      .ok (.compare "role" .lt (.enum ⟨1, "MANAGER"⟩)) := by
    rw [ofText_of_parse (parse_display he)]
    rfl
  have hp' : Predicate.ofText .standard Jogging.table e'.display =
      .ok (.compare "averageTemperature" .ne (.text "20")) := by
    rw [ofText_of_parse (parse_display he')]
    rfl
  have hu := (ofText_type_sound _).1 _ _ hp _ (List.mem_singleton_self _)
  have hj := ((ofText_type_sound _).2.1 _ _ hp').1 _ (List.mem_singleton_self _)
  rw [hd] at hp
  rw [hd'] at hp'
  exact ⟨hp, hu.1, (hu.2 _).1, hp', (hj.2.2 _).1.mpr (.inl ⟨rfl, rfl⟩)⟩

end RecordFilter
