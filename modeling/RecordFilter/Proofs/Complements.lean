import Mathlib.Order.Defs.Unbundled
import RecordFilter.Proofs.Typing

/-! # Orders and complements

The values of each kind are the contents of that kind (`Value.Kind.Content`), and two values
compare exactly if they are of one kind, as their contents do (`Value.compare_eq_some_iff`).  Each
kind compares its contents by a lawful total comparison, so that the laws of `Value.compare` are
those of `Std.TransCmp` and `Std.LawfulEqCmp`.

As exactly one of less, equal and greater holds of two values that compare, every predicate has a
complement: `Predicate.negation` turns the comparators around and swaps the connectives.  Where all
leaves have an outcome it holds exactly if the predicate does not (`holds_negation`).  A comparison
with an absent value does not hold and neither does its complement, so that in general at most one
of them holds (`not_matches_and_negation`). -/

namespace RecordFilter

/-! ### Comparisons of contents -/

instance : Std.TransCmp EnumVariant.compare :=
  inferInstanceAs
    (Std.TransCmp (compareLex (compareOn EnumVariant.ordinal) (compareOn EnumVariant.name)))

instance : Std.LawfulEqCmp EnumVariant.compare where
  eq_of_compare {a b} h := by
    have h' : a.ordinal = b.ordinal ∧ a.name = b.name := by
      simpa only [EnumVariant.compare, Ordering.then_eq_eq, Std.compare_eq_iff_eq] using h
    cases a
    cases b
    obtain ⟨rfl, rfl⟩ := h'
    rfl

instance : Std.TransCmp Date.compare :=
  inferInstanceAs (Std.TransCmp (compareLex (compareOn Date.year)
    (compareLex (compareOn Date.month) (compareOn Date.day))))

instance : Std.LawfulEqCmp Date.compare where
  eq_of_compare {a b} h := by
    have h' : a.year = b.year ∧ a.month = b.month ∧ a.day = b.day := by
      simpa only [Date.compare, Ordering.then_eq_eq, Std.compare_eq_iff_eq] using h
    cases a
    cases b
    obtain ⟨rfl, rfl, rfl⟩ := h'
    rfl

instance : Std.TransCmp TimeOfDay.compare :=
  inferInstanceAs (Std.TransCmp (compareLex (compareOn TimeOfDay.hour)
    (compareLex (compareOn TimeOfDay.minute)
      (compareLex (compareOn TimeOfDay.second) (compareOn TimeOfDay.nanosecond)))))

instance : Std.LawfulEqCmp TimeOfDay.compare where
  eq_of_compare {a b} h := by
    have h' : a.hour = b.hour ∧ a.minute = b.minute ∧ a.second = b.second ∧
        a.nanosecond = b.nanosecond := by
      simpa only [TimeOfDay.compare, Ordering.then_eq_eq, Std.compare_eq_iff_eq] using h
    cases a
    cases b
    obtain ⟨rfl, rfl, rfl, rfl⟩ := h'
    rfl

/-- The kinds of values that compare with each other. -/
inductive Value.Kind where
  | enum
  | integer
  | text
  | date
  | time
  deriving DecidableEq

/-- The kind of a value; an absent value has none. -/
def Value.kind? : Value → Option Value.Kind
  | .enum _ => some .enum
  | .integer _ => some .integer
  | .text _ => some .text
  | .date _ => some .date
  | .time _ => some .time
  | .null => none

namespace Value.Kind

/-- What a value of a kind consists of. -/
def Content : Value.Kind → Type
  | .enum => EnumVariant
  | .integer => Int64
  | .text => String
  | .date => Date
  | .time => TimeOfDay

/-- The value of a kind with a content. -/
def value : (k : Value.Kind) → k.Content → Value
  | .enum => .enum
  | .integer => .integer
  | .text => .text
  | .date => .date
  | .time => .time

/-- The comparison of the contents of a kind. -/
def compare : (k : Value.Kind) → k.Content → k.Content → Ordering
  | .enum => EnumVariant.compare
  | .integer => fun m n : Int64 => Ord.compare m n
  | .text => fun s t : String => Ord.compare s t
  | .date => Date.compare
  | .time => TimeOfDay.compare

instance (k : Value.Kind) : Std.TransCmp k.compare :=
  match k with
  | .enum => inferInstanceAs (Std.TransCmp EnumVariant.compare)
  | .integer => inferInstanceAs (Std.TransOrd Int64)
  | .text => inferInstanceAs (Std.TransOrd String)
  | .date => inferInstanceAs (Std.TransCmp Date.compare)
  | .time => inferInstanceAs (Std.TransCmp TimeOfDay.compare)

instance (k : Value.Kind) : Std.LawfulEqCmp k.compare :=
  match k with
  | .enum => inferInstanceAs (Std.LawfulEqCmp EnumVariant.compare)
  | .integer => inferInstanceAs (Std.LawfulEqOrd Int64)
  | .text => inferInstanceAs (Std.LawfulEqOrd String)
  | .date => inferInstanceAs (Std.LawfulEqCmp Date.compare)
  | .time => inferInstanceAs (Std.LawfulEqCmp TimeOfDay.compare)

theorem kind?_value (k : Value.Kind) (x : k.Content) : (k.value x).kind? = some k := by
  cases k <;> rfl

theorem value_injective {k : Value.Kind} {x y : k.Content} (h : k.value x = k.value y) : x = y := by
  cases k <;> cases h <;> rfl

theorem exists_value {k : Value.Kind} {v : Value} (h : v.kind? = some k) : ∃ x, v = k.value x := by
  cases v with
  | null => cases h
  | enum x | integer x | text x | date x | time x =>
      cases h
      exact ⟨x, rfl⟩

end Value.Kind

/-! ### Laws of comparison -/

namespace Value
variable {a b c : Value}

theorem compare_value (k : Value.Kind) (x y : k.Content) :
    (k.value x).compare (k.value y) = some (k.compare x y) := by
  cases k <;> rfl

theorem kind?_eq_none_iff : a.kind? = none ↔ a = .null := by
  cases a <;> simp [kind?]

/-- Two values compare exactly if they are of one kind, and then as their contents do. -/
theorem compare_eq_some_iff {o : Ordering} : a.compare b = some o ↔
    ∃ (k : Value.Kind) (x y : k.Content), a = k.value x ∧ b = k.value y ∧ k.compare x y = o := by
  constructor
  · intro h
    unfold compare at h
    split at h
    · exact ⟨.enum, _, _, rfl, rfl, Option.some.inj h⟩
    · exact ⟨.integer, _, _, rfl, rfl, Option.some.inj h⟩
    · exact ⟨.text, _, _, rfl, rfl, Option.some.inj h⟩
    · exact ⟨.date, _, _, rfl, rfl, Option.some.inj h⟩
    · exact ⟨.time, _, _, rfl, rfl, Option.some.inj h⟩
    · cases h
  · rintro ⟨k, x, y, rfl, rfl, rfl⟩
    exact compare_value k x y

theorem compare_ne_none_iff :
    a.compare b ≠ none ↔ ∃ k, a.kind? = some k ∧ b.kind? = some k := by
  rw [Option.ne_none_iff_exists']
  constructor
  · rintro ⟨o, h⟩
    obtain ⟨k, x, y, rfl, rfl, -⟩ := compare_eq_some_iff.mp h
    exact ⟨k, k.kind?_value x, k.kind?_value y⟩
  · rintro ⟨k, ha, hb⟩
    obtain ⟨x, rfl⟩ := Value.Kind.exists_value ha
    obtain ⟨y, rfl⟩ := Value.Kind.exists_value hb
    exact ⟨_, compare_value k x y⟩

theorem compare_eq_some_eq_iff : a.compare b = some .eq ↔ a = b ∧ a ≠ .null := by
  constructor
  · intro h
    obtain ⟨k, x, y, rfl, rfl, hxy⟩ := compare_eq_some_iff.mp h
    refine ⟨by rw [Std.LawfulEqCmp.eq_of_compare hxy], fun hn => ?_⟩
    have hk := k.kind?_value x
    rw [hn] at hk
    cases hk
  · rintro ⟨rfl, hn⟩
    obtain ⟨k, hk⟩ := Option.ne_none_iff_exists'.mp (mt kind?_eq_none_iff.mp hn)
    obtain ⟨x, rfl⟩ := Value.Kind.exists_value hk
    have hx : k.compare x x = .eq := Std.ReflCmp.compare_self
    rw [compare_value, hx]

theorem compare_swap (a b : Value) : b.compare a = (a.compare b).map Ordering.swap := by
  cases h : a.compare b with
  | some o =>
      obtain ⟨k, x, y, rfl, rfl, rfl⟩ := compare_eq_some_iff.mp h
      rw [compare_value, Option.map_some, ← Std.OrientedCmp.eq_swap]
  | none =>
      by_contra hne
      obtain ⟨k, hb, ha⟩ := compare_ne_none_iff.mp hne
      exact compare_ne_none_iff.mpr ⟨k, ha, hb⟩ h

theorem compare_lt_trans (hab : a.compare b = some .lt) (hbc : b.compare c = some .lt) :
    a.compare c = some .lt := by
  obtain ⟨k, x, y, rfl, rfl, hxy⟩ := compare_eq_some_iff.mp hab
  obtain ⟨k', y', z, hy, rfl, hyz⟩ := compare_eq_some_iff.mp hbc
  have hk : some k = some k' := by rw [← k.kind?_value y, hy, k'.kind?_value]
  obtain rfl : k = k' := Option.some.inj hk
  obtain rfl : y = y' := Value.Kind.value_injective hy
  rw [compare_value, Std.TransCmp.lt_trans hxy hyz]

/-- The values of one kind are totally ordered. -/
theorem isStrictTotalOrder_kind (k : Value.Kind) :
    IsStrictTotalOrder {v : Value // v.kind? = some k} fun a b =>
      a.1.compare b.1 = some .lt where
  irrefl a h := by
    have hs := compare_swap a.1 a.1
    rw [h] at hs
    cases hs
  trans _ _ _ hab hbc := compare_lt_trans hab hbc
  trichotomous a b hab hba := by
    have hne : a.1.compare b.1 ≠ none := compare_ne_none_iff.mpr ⟨k, a.2, b.2⟩
    obtain ⟨o, ho⟩ := Option.ne_none_iff_exists'.mp hne
    cases o with
    | lt => exact absurd ho hab
    | eq => exact Subtype.ext (compare_eq_some_eq_iff.mp ho).1
    | gt =>
        refine absurd ?_ hba
        rw [compare_swap, ho]
        rfl

end Value

/-! ### Complements -/

/-- The connective that joins the complements of two conditions. -/
def Connective.dual : Connective → Connective
  | .and => .or
  | .or => .and

theorem Connective.combine_dual (op : Connective) (a b : Bool) :
    op.dual.combine (!a) (!b) = !op.combine a b := by
  cases op with
  | and => exact (Bool.not_and a b).symm
  | or => exact (Bool.not_or a b).symm

namespace Predicate

/-- The complement of a predicate. There is no comparator for less or equal, so that it takes two
comparisons to deny that a value is greater. -/
def negation : Predicate → Predicate
  | .compare field .eq operand => .compare field .ne operand
  | .compare field .ne operand => .compare field .eq operand
  | .compare field .gt operand =>
    .joined .or (.compare field .lt operand) (.compare field .eq operand)
  | .compare field .lt operand =>
    .joined .or (.compare field .gt operand) (.compare field .eq operand)
  | .joined op left right => .joined op.dual left.negation right.negation

section holds
variable {value : String → Option Value} {field : String} {op : Comparator} {operand : Value}

theorem holds_compare_of_none (h : (value field).bind (·.compare operand) = none) :
    (compare field op operand).holds value = false := by
  rw [holds, h]

theorem holds_compare_of_some {o : Ordering} (h : (value field).bind (·.compare operand) = some o) :
    (compare field op operand).holds value = op.accepts o := by
  rw [holds, h]

theorem holds_joined (op : Connective) (left right : Predicate) :
    (joined op left right).holds value = op.combine (left.holds value) (right.holds value) := rfl

theorem holds_negation_of_some {o : Ordering}
    (h : (value field).bind (·.compare operand) = some o) :
    (compare field op operand).negation.holds value = !op.accepts o := by
  cases op <;> simp only [negation, holds_joined, holds_compare_of_some h] <;> cases o <;> rfl

/-- Where every comparison has an outcome, the complement holds exactly if the predicate does
not. -/
theorem holds_negation {p : Predicate}
    (h : ∀ c ∈ p.leaves, (value c.field).bind (·.compare c.operand) ≠ none) :
    p.negation.holds value = !p.holds value := by
  induction p with
  | compare field op operand =>
      obtain ⟨o, ho⟩ := Option.ne_none_iff_exists'.mp (h _ (List.mem_singleton_self _))
      rw [holds_negation_of_some ho, holds_compare_of_some ho]
  | joined op left right ihl ihr =>
      have hl := ihl fun c hc => h c (List.mem_append_left _ hc)
      have hr := ihr fun c hc => h c (List.mem_append_right _ hc)
      rw [negation, holds_joined, holds_joined, hl, hr, Connective.combine_dual]

theorem not_holds_of_negation {p : Predicate} (h : p.negation.holds value = true) :
    (!p.holds value) = true := by
  induction p with
  | compare field op operand =>
      cases ho : (value field).bind (·.compare operand) with
      | none => rw [holds_compare_of_none ho, Bool.not_false]
      | some o => rwa [holds_negation_of_some ho, ← holds_compare_of_some ho] at h
  | joined op left right ihl ihr =>
      rw [negation, holds_joined] at h
      rw [holds_joined, ← Connective.combine_dual]
      exact Connective.combine_mono ihl ihr h

end holds

section records
variable {α : Type} [Record α] {p : Predicate} {r : α}

theorem not_matches_and_negation : ¬ (p.matches r = true ∧ p.negation.matches r = true) := by
  rintro ⟨hp, hn⟩
  have h : (!p.matches r) = true := not_holds_of_negation hn
  rw [hp] at h
  cases h

/-- A predicate that keeps to the types of the fields and its complement divide the records in
which no field that it reads is absent. -/
theorem matches_negation [LawfulRecord α] (ht : ∀ c ∈ p.leaves, c.WellTyped (Record.table α))
    (hv : ∀ c ∈ p.leaves, Record.value r c.field ≠ some .null) :
    p.negation.matches r = !p.matches r := by
  refine holds_negation fun c hc => ?_
  exact mt ((ht c hc).outcome_eq_none_iff r).mp (hv c hc)

end records

end Predicate

/-- **Values are totally ordered and filters have complements.**  Two values compare exactly if
both are present and of one kind.  They are equal in the order exactly if they are identical,
swapping them reverses the outcome, and the values of each kind are totally ordered.

Hence a filter that compiles for users and its complement divide the users.  For sessions no one
satisfies both, and they divide those that have a value in every field that the filter reads. -/
theorem compare_orders_and_negation_divides (registry : Registry) :
    (∀ a b : Value,
      (a.compare b ≠ none ↔ ∃ k, a.kind? = some k ∧ b.kind? = some k) ∧
      (a.compare b = some .eq ↔ a = b ∧ a ≠ .null) ∧
      b.compare a = (a.compare b).map Ordering.swap) ∧
    (∀ a b c : Value, a.compare b = some .lt → b.compare c = some .lt → a.compare c = some .lt) ∧
    (∀ k, IsStrictTotalOrder {v : Value // v.kind? = some k} fun a b =>
      a.1.compare b.1 = some .lt) ∧
    (∀ text p, Predicate.ofText registry User.table text = .ok p → ∀ u : User,
      ¬ (p.matches u = true ∧ p.negation.matches u = true) ∧
        p.negation.matches u = !p.matches u) ∧
    (∀ text p, Predicate.ofText registry Jogging.table text = .ok p → ∀ j : Jogging,
      ¬ (p.matches j = true ∧ p.negation.matches j = true) ∧
        ((∀ c ∈ p.leaves, j.value c.field ≠ some .null) →
          p.negation.matches j = !p.matches j)) := by
  refine ⟨fun a b => ?_, fun a b c => Value.compare_lt_trans, Value.isStrictTotalOrder_kind,
    fun text p h u => ?_, fun text p h j => ?_⟩
  · exact ⟨Value.compare_ne_none_iff, Value.compare_eq_some_eq_iff, Value.compare_swap a b⟩
  · have ht : ∀ c ∈ p.leaves, c.WellTyped (Record.table User) := wellTyped_of_ofText h
    refine ⟨Predicate.not_matches_and_negation, Predicate.matches_negation ht fun c _ => ?_⟩
    exact u.value_ne_null c.field
  · have ht : ∀ c ∈ p.leaves, c.WellTyped (Record.table Jogging) := wellTyped_of_ofText h
    exact ⟨Predicate.not_matches_and_negation, Predicate.matches_negation ht⟩

/-- A leap second lies between the fractions of seconds around its start, and a session without
weather satisfies neither a condition on the weather nor its complement. -/
theorem compare_orders_and_negation_divides_absent :
    let early : Value := .time ⟨23, 59, 59, 500000000, by decide⟩
    let leap : Value := .time ⟨23, 59, 59, 1000000000, by decide⟩
    let late : Value := .time ⟨23, 59, 59, 1500000000, by decide⟩
    let rainy : Jogging := ⟨1, 0, "alice", ⟨2019, 3, 27, by decide⟩, 1000,
      ⟨1, 0, 0, 0, by decide⟩, "Minsk", none, some "rain"⟩
    let unknown : Jogging := { rainy with weatherCondition := none }
    (early.compare leap = some .lt ∧ leap.compare late = some .lt ∧
      early.compare late = some .lt) ∧
    ∃ p, Predicate.ofText .standard Jogging.table
        "((distance gt 5000) OR (weatherCondition ne 'sunny'))" = .ok p ∧
      (∀ c ∈ p.leaves, rainy.value c.field ≠ some .null) ∧
      p.negation.matches rainy = !p.matches rainy ∧
      p.matches unknown = false ∧ p.negation.matches unknown = false := by
  intro early leap late rainy unknown
  let e : Expr := .binary .or (.comparison "distance" .gt (.valid (.integer 5000)))
    (.comparison "weatherCondition" .ne (.valid (.text "sunny")))
  have he : e.WellFormed :=
    ⟨⟨by decide +kernel, trivial⟩, ⟨by decide +kernel, wellFormed_text (by decide) (by decide)⟩⟩
  let p : Predicate := .joined .or (.compare "distance" .gt (.integer 5000))
    (.compare "weatherCondition" .ne (.text "sunny"))
  have hp : Predicate.ofText .standard Jogging.table e.display = .ok p := by
    rw [ofText_of_parse (parse_display he)]
    rfl
  have ht : e.display = "((distance gt 5000) OR (weatherCondition ne 'sunny'))" := by
    decide +kernel
  rw [ht] at hp
  obtain ⟨-, htrans, -, -, hj⟩ := compare_orders_and_negation_divides .standard
  have h₁ : early.compare leap = some .lt := by decide
  have h₂ : leap.compare late = some .lt := by decide
  have hv : ∀ c ∈ p.leaves, rainy.value c.field ≠ some .null := by decide
  exact ⟨⟨h₁, h₂, htrans _ _ _ h₁ h₂⟩, p, hp, hv, (hj _ _ hp rainy).2 hv, by decide, by decide⟩

end RecordFilter
