import Mathlib.Algebra.Group.Int.Defs
import Mathlib.Algebra.Group.Nat.Defs
import Mathlib.Data.List.TakeWhile
import RecordFilter.Text.Basic

/-! # Numerals and the numbers they spell

A number has exactly one numeral of each width that it fits in: `paddedNumeral` writes it
(`digitsValue_paddedNumeral`), and every text of digits is the padded numeral of its value
(`paddedNumeral_digitsValue`).  A 64-bit number is read from digits, perhaps
behind a minus sign (`readInt64?_digits`, `readInt64?_negative`), unless they spell a number that
is out of range (`toInt64?_eq_none_iff`). -/

namespace RecordFilter

/-! ### Texts of digits -/

/-- A text of `n` ASCII digits. -/
def IsDigits (n : Nat) (cs : List Char) : Prop :=
  cs.length = n ∧ ∀ c ∈ cs, c.isDigit = true

instance (n : Nat) (cs : List Char) : Decidable (IsDigits n cs) :=
  decidable_of_iff (cs.length = n ∧ cs.all Char.isDigit = true) (by simp [IsDigits])

theorem digitsValue_concat (digits : List Char) (c : Char) :
    digitsValue (digits ++ [c]) = 10 * digitsValue digits + (c.toNat - 48) := by
  simp [digitsValue, Nat.ofDigitChars_append, Nat.ofDigitChars_cons]

theorem toNat_of_isDigit {c : Char} (h : c.isDigit = true) : 48 ≤ c.toNat ∧ c.toNat ≤ 57 :=
  Char.isDigit_iff_toNat.mp h

theorem IsDigits.exists_concat {n : Nat} {digits : List Char} (h : IsDigits (n + 1) digits) :
    ∃ ds c, digits = ds ++ [c] ∧ IsDigits n ds ∧ c.isDigit = true := by
  obtain ⟨hl, hd⟩ := h
  rcases List.eq_nil_or_concat digits with rfl | ⟨ds, c, rfl⟩
  · cases hl
  · rw [List.concat_eq_append] at hl hd ⊢
    simp only [List.length_append, List.length_singleton, Nat.add_right_cancel_iff] at hl
    exact ⟨ds, c, rfl, ⟨hl, fun d hd' => hd d (List.mem_append_left _ hd')⟩, hd c (by simp)⟩

theorem digitsValue_lt {n : Nat} {digits : List Char} (h : IsDigits n digits) :
    digitsValue digits < 10 ^ n := by
  induction n generalizing digits with
  | zero =>
      rw [List.eq_nil_of_length_eq_zero h.1]
      decide
  | succ n ih =>
      obtain ⟨ds, c, rfl, hds, hc⟩ := h.exists_concat
      have h1 := ih hds
      have h2 := toNat_of_isDigit hc
      rw [digitsValue_concat, Nat.pow_succ]
      omega

/-- Texts of digits of one length differ in their values. -/
theorem digitsValue_inj {n : Nat} {digits digits' : List Char} (h : IsDigits n digits)
    (h' : IsDigits n digits') (he : digitsValue digits = digitsValue digits') :
    digits = digits' := by
  induction n generalizing digits digits' with
  | zero => rw [List.eq_nil_of_length_eq_zero h.1, List.eq_nil_of_length_eq_zero h'.1]
  | succ n ih =>
      obtain ⟨ds, c, rfl, hds, hc⟩ := h.exists_concat
      obtain ⟨ds', c', rfl, hds', hc'⟩ := h'.exists_concat
      rw [digitsValue_concat, digitsValue_concat] at he
      have h1 := toNat_of_isDigit hc
      have h2 := toNat_of_isDigit hc'
      have h3 : c = c' := Char.toNat_inj.mp (by omega)
      rw [ih hds hds' (by omega), h3]

/-! ### Writing and reading -/

theorem isDigit_of_mem_numeral {n : Nat} {c : Char} (h : c ∈ numeral n) : c.isDigit = true :=
  Nat.isDigit_of_mem_toDigits (by decide) (by decide) h

theorem numeral_ne_nil (n : Nat) : numeral n ≠ [] :=
  Nat.toDigits_ne_nil

@[simp] theorem digitsValue_numeral (n : Nat) : digitsValue (numeral n) = n :=
  Nat.ofDigitChars_ten_toDigits

@[simp] theorem digitsValue_paddedNumeral (width n : Nat) :
    digitsValue (paddedNumeral width n) = n := by
  have h := digitsValue_numeral n
  unfold digitsValue at h
  simp [paddedNumeral, digitsValue, Nat.ofDigitChars_append, h]

theorem numeral_eq_cons (n : Nat) : ∃ c cs, numeral n = c :: cs ∧ c.isDigit = true := by
  obtain ⟨c, cs, h⟩ := List.exists_cons_of_ne_nil (numeral_ne_nil n)
  exact ⟨c, cs, h, isDigit_of_mem_numeral (h ▸ List.mem_cons_self)⟩

theorem paddedNumeral_ne_nil (width n : Nat) : paddedNumeral width n ≠ [] := by
  simp [paddedNumeral, numeral_ne_nil]

theorem isDigit_of_mem_paddedNumeral {width n : Nat} {c : Char}
    (h : c ∈ paddedNumeral width n) : c.isDigit = true := by
  rcases List.mem_append.mp h with h | h
  · rw [(List.mem_replicate.mp h).2]
    decide
  · exact isDigit_of_mem_numeral h

theorem paddedNumeral_isDigits {width n : Nat} (hw : 0 < width) (hn : n < 10 ^ width) :
    IsDigits width (paddedNumeral width n) := by
  have hl : (numeral n).length ≤ width := (Nat.length_toDigits_le_iff (by decide) hw).mpr hn
  refine ⟨by simp only [paddedNumeral, List.length_append, List.length_replicate]; omega, ?_⟩
  exact fun c => isDigit_of_mem_paddedNumeral

/-- A text of digits is the padded numeral of its value. -/
theorem paddedNumeral_digitsValue {width : Nat} {digits : List Char} (hw : 0 < width)
    (h : IsDigits width digits) : paddedNumeral width (digitsValue digits) = digits :=
  digitsValue_inj (paddedNumeral_isDigits hw (digitsValue_lt h)) h (by simp)

/-- Digits are read until there are as many as allowed, or up to another character. -/
theorem readDigits_append {width : Nat} {digits rest : List Char} (hne : digits ≠ [])
    (hd : ∀ c ∈ digits, c.isDigit = true) (hw : digits.length ≤ width)
    (hr : digits.length = width ∨ ∀ c ∈ rest.head?, c.isDigit = false) :
    readDigits width (digits ++ rest) = some (digits, rest) := by
  have ht : ((digits ++ rest).take width).takeWhile Char.isDigit = digits := by
    rw [List.take_append, List.take_of_length_le hw, List.takeWhile_append_of_pos hd]
    have hnil : (rest.take (width - digits.length)).takeWhile Char.isDigit = [] := by
      rcases hr with hr | hr
      · simp [hr]
      · cases rest with
        | nil => simp
        | cons c rest => cases width - digits.length <;> simp [hr c rfl]
    rw [hnil, List.append_nil]
  simp [readDigits, ht, hne]

theorem readNumber_of_readDigits {width : Nat} {cs digits rest : List Char}
    (h : readDigits width cs = some (digits, rest)) :
    readNumber width cs = some (digitsValue digits, rest) := by
  rw [readNumber, h]
  rfl

theorem readNumber_append {width : Nat} {digits : List Char} (hw : 0 < width)
    (h : IsDigits width digits) (rest : List Char) :
    readNumber width (digits ++ rest) = some (digitsValue digits, rest) := by
  obtain ⟨hl, hd⟩ := h
  have hne : digits ≠ [] := by
    rintro rfl
    simp at hl
    omega
  exact readNumber_of_readDigits (readDigits_append hne hd (Nat.le_of_eq hl) (.inl hl))

/-! ### 64-bit numbers -/

theorem toInt64?_toInt (v : Int64) : toInt64? v.toInt = some v := by
  rw [toInt64?, if_pos ⟨v.minValue_le_toInt, v.toInt_le⟩, Int64.ofInt_toInt]

theorem toInt64?_eq_none_iff {n : Int} : toInt64? n = none ↔ n < -2 ^ 63 ∨ 2 ^ 63 ≤ n := by
  have h1 : Int64.minValue.toInt = -2 ^ 63 := by decide
  have h2 : Int64.maxValue.toInt = 2 ^ 63 - 1 := by decide
  unfold toInt64?
  rw [h1, h2]
  split
  · simp only [reduceCtorEq, false_iff]
    omega
  · simp only [true_iff]
    omega

theorem toInt64?_eq_some_iff {n : Int} {v : Int64} : toInt64? n = some v ↔ v.toInt = n := by
  constructor
  · intro h
    have hr : ¬ (n < -2 ^ 63 ∨ 2 ^ 63 ≤ n) := by
      rw [← toInt64?_eq_none_iff, h]
      exact fun hn => nomatch hn
    unfold toInt64? at h
    split at h
    · cases h
      exact Int64.toInt_ofInt_of_le (by omega) (by omega)
    · cases h
  · rintro rfl
    exact toInt64?_toInt v

theorem readNat?_digits {digits : List Char} (hne : digits ≠ [])
    (hd : ∀ c ∈ digits, c.isDigit = true) : readNat? digits = some (digitsValue digits) := by
  simp [readNat?, hne, List.all_eq_true.mpr hd]

theorem readInt64?_digits {digits : List Char} (hne : digits ≠ [])
    (hd : ∀ c ∈ digits, c.isDigit = true) :
    readInt64? digits = toInt64? (digitsValue digits) := by
  unfold readInt64?
  split
  · exact absurd (hd '-' List.mem_cons_self) (by decide)
  · exact absurd (hd '+' List.mem_cons_self) (by decide)
  · rw [readNat?_digits hne hd]
    rfl

theorem readInt64?_negative {digits : List Char} (hne : digits ≠ [])
    (hd : ∀ c ∈ digits, c.isDigit = true) :
    readInt64? ('-' :: digits) = toInt64? (-digitsValue digits) := by
  simp only [readInt64?, readNat?_digits hne hd, Option.bind_some]

end RecordFilter
