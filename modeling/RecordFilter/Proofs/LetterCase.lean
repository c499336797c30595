import Mathlib.Data.List.Forall2
import RecordFilter.Predicate
import RecordFilter.Proofs.Tokens

/-! # Letter case

Nothing that reads a filter tells the capital letters of ASCII from the small ones.  Two texts that
differ only in the case of such letters agree character by character (`SameLetters`).  A function of
characters ignores case as soon as it takes one value on each of the twenty-six capitals and its
small letter (`ignoresCase_of_capitals`), and this covers all the character classes of the language.
From the characters it carries over to texts: the pieces of a text up to a class, its length in
bytes, the kind of a word, the field that a name means and the field that is suggested in place of
an unknown one. -/

namespace RecordFilter

/-! ### Characters -/

/-- The function takes the same value on the letters that differ in case only. -/
def IgnoresCase {α : Type} (f : Char → α) : Prop :=
  ∀ c d : Char, c.toLower = d.toLower → f c = f d

/-- The capital letters of ASCII. -/
def capitals : List Char :=
  (List.range 26).map fun n => Char.ofNat (n + 65)

theorem mem_capitals {c : Char} (h : 65 ≤ c.toNat ∧ c.toNat ≤ 90) : c ∈ capitals := by
  refine List.mem_map.mpr ⟨c.toNat - 65, List.mem_range.mpr (by omega), ?_⟩
  rw [Nat.sub_add_cancel h.1, Char.ofNat_toNat]

theorem toLower_of_not_capital {c : Char} (h : ¬ (65 ≤ c.toNat ∧ c.toNat ≤ 90)) :
    c.toLower = c := by
  have hv : ¬ (c.val ≥ 'A'.val ∧ c.val ≤ 'Z'.val) := h
  exact dif_neg hv

/-- Only the capitals have to be looked at. -/
theorem ignoresCase_of_capitals {α : Type} [DecidableEq α] {f : Char → α}
    (hf : (capitals.all fun c => f c.toLower = f c) = true) : IgnoresCase f := by
  have hl : ∀ c : Char, f c.toLower = f c := by
    intro c
    by_cases hc : 65 ≤ c.toNat ∧ c.toNat ≤ 90
    · exact of_decide_eq_true (List.all_eq_true.mp hf c (mem_capitals hc))
    · rw [toLower_of_not_capital hc]
  intro c d h
  rw [← hl c, h, hl d]

theorem ignoresCase_isBlank : IgnoresCase isBlank :=
  ignoresCase_of_capitals (by decide +kernel)

theorem ignoresCase_isDigit : IgnoresCase Char.isDigit :=
  ignoresCase_of_capitals (by decide)

theorem ignoresCase_beginsWord : IgnoresCase beginsWord :=
  ignoresCase_of_capitals (by decide +kernel)

theorem ignoresCase_continuesWord : IgnoresCase continuesWord :=
  ignoresCase_of_capitals (by decide +kernel)

theorem ignoresCase_utf8Size : IgnoresCase Char.utf8Size :=
  ignoresCase_of_capitals (by decide)

theorem ignoresCase_lowercaseChar : IgnoresCase lowercaseChar :=
  ignoresCase_of_capitals (by decide +kernel)

theorem ignoresCase_cased : IgnoresCase (CodeRange.anyContains casedRanges) :=
  ignoresCase_of_capitals (by decide +kernel)

theorem ignoresCase_caseIgnorable : IgnoresCase (CodeRange.anyContains caseIgnorableRanges) :=
  ignoresCase_of_capitals (by decide +kernel)

/-- What is no capital and no small letter is the only character of its case class. -/
theorem eq_iff_of_toLower_eq {c d x : Char} (hx : x ∉ capitals ++ capitals.map Char.toLower)
    (h : c.toLower = d.toLower) : c = x ↔ d = x := by
  have hi : IgnoresCase fun a => decide (a = x) := by
    refine ignoresCase_of_capitals (List.all_eq_true.mpr fun a ha => ?_)
    have hcapital : a ≠ x := fun h => hx (List.mem_append_left _ (h ▸ ha))
    have hsmall : a.toLower ≠ x := fun h =>
      hx (List.mem_append_right _ (List.mem_map.mpr ⟨a, ha, h⟩))
    simp [hcapital, hsmall]
  simpa using hi c d h

/-- Digits have no case. -/
theorem eq_of_isDigit {c d : Char} (hc : c.isDigit = true) (h : c.toLower = d.toLower) : c = d := by
  have hl : ∀ a : Char, a.isDigit = true → a.toLower = a := by
    intro a ha
    have hn : a.toNat ≤ 57 := (Char.isDigit_iff_toNat.mp ha).2
    exact toLower_of_not_capital (by omega)
  have hd : d.isDigit = true := by rw [← ignoresCase_isDigit c d h, hc]
  rw [← hl c hc, h, hl d hd]

/-! ### Texts -/

/-- The texts differ in nothing but the case of ASCII letters. -/
def SameLetters (as bs : List Char) : Prop :=
  List.Forall₂ (fun c d => c.toLower = d.toLower) as bs

theorem sameLetters_iff {as bs : List Char} :
    SameLetters as bs ↔ as.map Char.toLower = bs.map Char.toLower := by
  rw [← List.forall₂_eq_eq_eq, List.forall₂_map_left_iff, List.forall₂_map_right_iff]
  rfl

theorem SameLetters.refl (as : List Char) : SameLetters as as :=
  sameLetters_iff.mpr rfl

theorem sameName_iff {a b : String} :
    sameName a b = true ↔ SameLetters a.toList b.toList := by
  rw [sameName, beq_iff_eq, sameLetters_iff]

theorem sameName_ofList_iff {as bs : List Char} :
    sameName (String.ofList as) (String.ofList bs) = true ↔ SameLetters as bs := by
  rw [sameName_iff, String.toList_ofList, String.toList_ofList]

theorem sameName_refl (a : String) : sameName a a = true :=
  sameName_iff.mpr (.refl _)

section texts
variable {as bs : List Char} (h : SameLetters as bs)
include h

theorem SameLetters.byteLength_eq : byteLength as = byteLength bs := by
  induction h with
  | nil => rfl
  | cons hc _ ih => rw [byteLength_cons, byteLength_cons, ignoresCase_utf8Size _ _ hc, ih]

theorem SameLetters.dropWhile {p : Char → Bool} (hp : IgnoresCase p) :
    SameLetters (as.dropWhile p) (bs.dropWhile p) := by
  induction h with
  | nil => exact .nil
  | @cons c d cs ds hc hs ih =>
      rw [List.dropWhile_cons, List.dropWhile_cons, ← hp c d hc]
      split
      · exact ih
      · exact .cons hc hs

theorem SameLetters.forall_of_ignoresCase {p : Char → Bool} (hp : IgnoresCase p)
    (ha : ∀ c ∈ as, p c = true) : ∀ d ∈ bs, p d = true := by
  induction h with
  | nil => exact ha
  | @cons c d cs ds hc _ ih =>
      obtain ⟨hd, hds⟩ := List.forall_mem_cons.mp ha
      exact List.forall_mem_cons.mpr ⟨(hp c d hc).symm.trans hd, ih hds⟩

theorem SameLetters.eq_of_isDigit (ha : ∀ c ∈ as, c.isDigit = true) : as = bs := by
  induction h with
  | nil => rfl
  | @cons c d cs ds hc _ ih =>
      obtain ⟨hd, hds⟩ := List.forall_mem_cons.mp ha
      rw [RecordFilter.eq_of_isDigit hd hc, ih hds]

/-- A word is the same keyword in any case, or none. -/
theorem SameLetters.wordKind_eq : wordKind as = wordKind bs := by
  rw [wordKind, wordKind, sameLetters_iff.mp h]

end texts

/-! ### Names of fields -/

theorem SameLetters.meetsCased_eq {as bs : List Char} (h : SameLetters as bs) :
    meetsCased as = meetsCased bs := by
  have hd := h.dropWhile ignoresCase_caseIgnorable
  unfold meetsCased
  generalize as.dropWhile _ = cs at hd ⊢
  generalize bs.dropWhile _ = ds at hd ⊢
  cases hd with
  | nil => rfl
  | cons hc _ => exact ignoresCase_cased _ _ hc

theorem SameLetters.lowercaseAfter_eq {before before' cs ds : List Char}
    (hb : SameLetters before before') (h : SameLetters cs ds) :
    lowercaseAfter before cs = lowercaseAfter before' ds := by
  induction h generalizing before before' with
  | nil => rfl
  | @cons c d cs ds hc hs ih =>
      have hsigma : c = 'Σ' ↔ d = 'Σ' := eq_iff_of_toLower_eq (by decide) hc
      simp only [lowercaseAfter, hsigma, hb.meetsCased_eq, SameLetters.meetsCased_eq hs,
        ignoresCase_lowercaseChar c d hc, ih (.cons hc hb)]

section names
variable {a b : String} (h : sameName a b = true)
include h

theorem lowercase_eq_of_sameName : lowercase a = lowercase b := by
  rw [lowercase, lowercase, SameLetters.lowercaseAfter_eq (.refl []) (sameName_iff.mp h)]

/-- A table knows a name in any case, or not at all. -/
theorem lookup_eq_of_sameName (t : FieldTable) : t.lookup a = t.lookup b := by
  have he : ∀ f : Field, sameName f.name a = sameName f.name b := by
    intro f
    rw [sameName, sameName, sameLetters_iff.mp (sameName_iff.mp h)]
  rw [FieldTable.lookup, FieldTable.lookup, funext he]

theorem suggest_eq_of_sameName (t : FieldTable) : t.suggest a = t.suggest b := by
  have hn : t.nearest a = t.nearest b := by
    unfold FieldTable.nearest FieldTable.nameDistance
    rw [lowercase_eq_of_sameName h]
  rw [FieldTable.suggest, FieldTable.suggest, hn]

end names

end RecordFilter
