import Mathlib.Data.List.Induction
import Mathlib.Order.Bounds.Defs
import RecordFilter.Proofs.Compilation
import RecordFilter.Proofs.LetterCase
import RecordFilter.Text.Basic

/-! # Suggestions

What is suggested in place of a name that a table does not know. -/

namespace RecordFilter

/-! ## Edit distance counts edits

The distance of two texts is computed row by row.  A row for `d :: b` is the row for `b` with one
more distance in front (`distances_cons_right`), so the distances satisfy the recursion over both
texts (`editDistance_cons_cons`).  From the recursion follow the two halves of
`isLeast_editDistance`: so many edits lead from the one text to the other, which goes by induction
on the texts, and fewer do not, as a single edit changes the distance from any third text by one at
most (`editDistance_le_of_edit`). -/

/-! ### Edits -/

/-- One edit of a text: a character is put in, taken out, or replaced. -/
inductive Edit : List Char → List Char → Prop
  | insert (before after : List Char) (d : Char) : Edit (before ++ after) (before ++ d :: after)
  | delete (before after : List Char) (c : Char) : Edit (before ++ c :: after) (before ++ after)
  | replace (before after : List Char) (c d : Char) :
      Edit (before ++ c :: after) (before ++ d :: after)

/-- `Edits n a b`: a sequence of `n` edits turns `a` into `b`. -/
inductive Edits : Nat → List Char → List Char → Prop
  | none (a : List Char) : Edits 0 a a
  | step {n : Nat} {a b c : List Char} (h : Edit a b) (hs : Edits n b c) : Edits (n + 1) a c

theorem Edit.cons {a b : List Char} (h : Edit a b) (x : Char) : Edit (x :: a) (x :: b) := by
  cases h with
  | insert before after d => exact .insert (x :: before) after d
  | delete before after c => exact .delete (x :: before) after c
  | replace before after c d => exact .replace (x :: before) after c d

theorem Edits.cons {n : Nat} {a b : List Char} (h : Edits n a b) (x : Char) :
    Edits n (x :: a) (x :: b) := by
  induction h with
  | none a => exact .none (x :: a)
  | step h _ ih => exact .step (h.cons x) ih

theorem edits_zero_iff {a b : List Char} : Edits 0 a b ↔ a = b := by
  constructor
  · intro h
    cases h
    rfl
  · rintro rfl
    exact .none a

/-! ### The recursion -/

theorem distances_nil_right (a : List Char) : distances a [] = [a.length] := by
  induction a with
  | nil => rfl
  | cons c a ih =>
      rw [distances, ih]
      rfl

theorem distances_cons_right (a : List Char) (d : Char) (b : List Char) :
    distances a (d :: b) = editDistance a (d :: b) :: distances a b := by
  induction a with
  | nil =>
      rw [editDistance, distances, distances, List.length_cons, List.range_succ,
        List.reverse_append]
      rfl
  | cons c a ih =>
      rw [editDistance, distances, distances, ih]
      rfl

theorem editDistance_nil_left (b : List Char) : editDistance [] b = b.length := by
  rw [editDistance, distances, List.range_succ, List.reverse_append]
  rfl

theorem editDistance_nil_right (a : List Char) : editDistance a [] = a.length := by
  rw [editDistance, distances_nil_right]
  rfl

/-- The first characters are taken out, put in, or set against one another. -/
theorem editDistance_cons_cons (c d : Char) (a b : List Char) :
    editDistance (c :: a) (d :: b) =
      min (min (editDistance a (d :: b) + 1) (editDistance (c :: a) b + 1))
        (editDistance a b + if c = d then 0 else 1) := by
  rw [editDistance, distances, distances_cons_right]
  rfl

section bounds
variable (c d : Char) (a b : List Char)

theorem editDistance_cons_left_le : editDistance (c :: a) b ≤ editDistance a b + 1 := by
  cases b with
  | nil => simp [editDistance_nil_right]
  | cons d b =>
      rw [editDistance_cons_cons]
      omega

theorem editDistance_cons_right_le : editDistance a (d :: b) ≤ editDistance a b + 1 := by
  cases a with
  | nil => simp [editDistance_nil_left]
  | cons c a =>
      rw [editDistance_cons_cons]
      omega

theorem editDistance_self : editDistance a a = 0 := by
  induction a with
  | nil => rfl
  | cons c a ih =>
      rw [editDistance_cons_cons, if_pos rfl, ih]
      omega

end bounds

/-! ### So many edits and no fewer -/

theorem edits_editDistance (a b : List Char) : Edits (editDistance a b) a b := by
  induction a generalizing b with
  | nil =>
      rw [editDistance_nil_left]
      induction b with
      | nil => exact .none []
      | cons d b ih => exact .step (.insert [] [] d) (ih.cons d)
  | cons c a iha =>
      induction b with
      | nil =>
          have h := iha []
          rw [editDistance_nil_right] at h ⊢
          exact .step (.delete [] a c) h
      | cons d b ihb =>
          have heq := editDistance_cons_cons c d a b
          -- the way that the least of the three distances was found is the way to go
          rcases Nat.le_total (editDistance a b + if c = d then 0 else 1)
            (min (editDistance a (d :: b) + 1) (editDistance (c :: a) b + 1)) with hle | hle
          · rw [Nat.min_eq_right hle] at heq
            rw [heq]
            split
            · next hcd => exact hcd ▸ (iha b).cons c
            · exact .step (.replace [] a c d) ((iha b).cons d)
          rw [Nat.min_eq_left hle] at heq
          rcases Nat.le_total (editDistance a (d :: b) + 1) (editDistance (c :: a) b + 1) with
            hle' | hle'
          · rw [heq, Nat.min_eq_left hle']
            exact .step (.delete [] a c) (iha (d :: b))
          · rw [heq, Nat.min_eq_right hle']
            exact .step (.insert [] (c :: a) d) (ihb.cons d)

/-- A character in front of both texts keeps their distances from a third text close. -/
theorem editDistance_cons_le {a b : List Char} (x : Char)
    (h : ∀ c, editDistance a c ≤ editDistance b c + 1) (c : List Char) :
    editDistance (x :: a) c ≤ editDistance (x :: b) c + 1 := by
  induction c with
  | nil =>
      have hnil := h []
      simp only [editDistance_nil_right, List.length_cons] at hnil ⊢
      omega
  | cons y c ih =>
      have h₁ := h (y :: c)
      have h₂ := h c
      rw [editDistance_cons_cons, editDistance_cons_cons]
      omega

/-- An edit changes the distance from any text by one at most. -/
theorem editDistance_le_of_edit {a b : List Char} (h : Edit a b) (c : List Char) :
    editDistance a c ≤ editDistance b c + 1 := by
  cases h with
  | insert before after d =>
      induction before generalizing c with
      | cons x before ih => exact editDistance_cons_le x ih c
      | nil =>
          rw [List.nil_append, List.nil_append]
          induction c with
          | nil =>
              simp only [editDistance_nil_right, List.length_cons]
              omega
          | cons y c ih =>
              have hle := editDistance_cons_right_le y after c
              rw [editDistance_cons_cons]
              omega
  | delete before after x =>
      induction before generalizing c with
      | cons x before ih => exact editDistance_cons_le x ih c
      | nil => exact editDistance_cons_left_le x after c
  | replace before after x z =>
      induction before generalizing c with
      | cons x before ih => exact editDistance_cons_le x ih c
      | nil =>
          rw [List.nil_append, List.nil_append]
          induction c with
          | nil =>
              simp only [editDistance_nil_right, List.length_cons]
              omega
          | cons y c ih =>
              have hcost : (if x = y then 0 else 1) ≤ 1 := by split <;> omega
              rw [editDistance_cons_cons, editDistance_cons_cons]
              omega

theorem editDistance_le_of_edits {n : Nat} {a b : List Char} (h : Edits n a b) :
    editDistance a b ≤ n := by
  induction h with
  | none a => exact Nat.le_of_eq (editDistance_self a)
  | @step n a b c h _ ih =>
      have hle := editDistance_le_of_edit h c
      omega

/-- The distance of two texts is the least number of edits that turn the one into the other. -/
theorem isLeast_editDistance (a b : List Char) :
    IsLeast {n | Edits n a b} (editDistance a b) :=
  ⟨edits_editDistance a b, fun _ h => editDistance_le_of_edits h⟩

theorem editDistance_eq_zero_iff {a b : List Char} : editDistance a b = 0 ↔ a = b := by
  constructor
  · intro h
    have hedits := edits_editDistance a b
    rw [h] at hedits
    exact edits_zero_iff.mp hedits
  · rintro rfl
    exact editDistance_self a

/-! ## Suggested names

A name that a table does not know is answered with a declared name that is near to it.  Nearness
counts edits between the names in lowercase (`isLeast_editDistance`), and the walk over the fields
keeps the earliest of the nearest (`nearest_eq_some_iff`).

Lowercase is that of all letters, while names are looked up without regard to the case of ASCII
letters only.  So a name can be unknown although a declared one is the same in lowercase, at no
distance at all, and then nothing is suggested (`suggest_of_unknown`, `suggest_withheld`).  Names in
ASCII do not know this difference (`sameName_of_lowercase_eq`). -/

namespace FieldTable

/-! ### The nearest name -/

/-- The field is the earliest of those whose names are nearest to a written one. -/
def IsNearest (t : FieldTable) (name : String) (f : Field) : Prop :=
  ∃ before after, t.fields = before ++ f :: after ∧
    (∀ g ∈ before, nameDistance name f.name < nameDistance name g.name) ∧
    ∀ g ∈ after, nameDistance name f.name ≤ nameDistance name g.name

section nearest
variable {t : FieldTable} {name : String} {f g : Field}

theorem IsNearest.mem (h : t.IsNearest name f) : f ∈ t.fields := by
  obtain ⟨before, after, hfields, -⟩ := h
  rw [hfields]
  exact List.mem_append_right before List.mem_cons_self

theorem IsNearest.le (h : t.IsNearest name f) (hg : g ∈ t.fields) :
    nameDistance name f.name ≤ nameDistance name g.name := by
  obtain ⟨before, after, hfields, hbefore, hafter⟩ := h
  rw [hfields, List.mem_append, List.mem_cons] at hg
  rcases hg with hg | rfl | hg
  · exact Nat.le_of_lt (hbefore g hg)
  · exact Nat.le_refl _
  · exact hafter g hg

theorem IsNearest.concat {record : String} {fields : List Field}
    (h : IsNearest ⟨record, fields⟩ name f) (g : Field) :
    IsNearest ⟨record, fields ++ [g]⟩ name
      (if nameDistance name g.name < nameDistance name f.name then g else f) := by
  split
  · next hlt =>
      exact ⟨fields, [], rfl, fun b hb => Nat.lt_of_lt_of_le hlt (h.le hb), by simp⟩
  · next hge =>
      obtain ⟨before, after, hfields, hbefore, hafter⟩ := h
      refine ⟨before, after ++ [g], ?_, hbefore, fun b hb => ?_⟩
      · change fields = _ at hfields
        simp [hfields]
      · rcases List.mem_append.mp hb with hb | hb
        · exact hafter b hb
        · obtain rfl := List.mem_singleton.mp hb
          exact Nat.le_of_not_lt hge

theorem nearest_concat {record : String} {fields : List Field} {best : String × Nat}
    (h : nearest ⟨record, fields⟩ name = some best) (g : Field) :
    nearest ⟨record, fields ++ [g]⟩ name =
      if nameDistance name g.name < best.2 then some (g.name, nameDistance name g.name)
      else some best := by
  rw [nearest] at h ⊢
  rw [List.foldl_append, h]
  rfl

theorem exists_isNearest (record name : String) (fields : List Field) (h : fields ≠ []) :
    ∃ f, IsNearest ⟨record, fields⟩ name f ∧
      nearest ⟨record, fields⟩ name = some (f.name, nameDistance name f.name) := by
  induction fields using List.reverseRecOn with
  | nil => exact absurd rfl h
  | append_singleton fields g ih =>
      by_cases hnil : fields = []
      · subst hnil
        exact ⟨g, ⟨[], [], rfl, by simp, by simp⟩, rfl⟩
      · obtain ⟨f, hf, heq⟩ := ih hnil
        refine ⟨_, hf.concat g, ?_⟩
        rw [nearest_concat heq]
        split <;> rfl

theorem IsNearest.unique (hf : t.IsNearest name f) (hg : t.IsNearest name g) : f = g := by
  have hfg := hf.le hg.mem
  have hgf := hg.le hf.mem
  obtain ⟨before, after, hfields, hbefore, -⟩ := hf
  obtain ⟨before', after', hfields', hbefore', -⟩ := hg
  -- the field that stands earlier is nearer than the other one, unless they are one field
  rcases List.append_eq_append_iff.mp (hfields.symm.trans hfields') with
    ⟨between, hsplit, hrest⟩ | ⟨between, hsplit, hrest⟩
  · cases between with
    | nil => exact (List.cons.inj hrest).1
    | cons x between =>
        obtain ⟨rfl, -⟩ := List.cons.inj hrest
        have hlt := hbefore' f (by simp [hsplit])
        omega
  · cases between with
    | nil => exact (List.cons.inj hrest).1.symm
    | cons x between =>
        obtain ⟨rfl, -⟩ := List.cons.inj hrest
        have hlt := hbefore g (by simp [hsplit])
        omega

theorem nearest_eq_some_iff {declared : String} {distance : Nat} :
    t.nearest name = some (declared, distance) ↔
      ∃ f, t.IsNearest name f ∧ f.name = declared ∧ nameDistance name f.name = distance := by
  have hexists := fun h => exists_isNearest t.record name t.fields h
  constructor
  · intro h
    by_cases hnil : t.fields = []
    · rw [nearest, hnil] at h
      cases h
    · obtain ⟨f, hf, heq⟩ := hexists hnil
      cases h.symm.trans heq
      exact ⟨f, hf, rfl, rfl⟩
  · rintro ⟨f, hf, rfl, rfl⟩
    obtain ⟨g, hg, heq⟩ := hexists (List.ne_nil_of_mem hf.mem)
    rw [hf.unique hg]
    exact heq

end nearest

/-! ### The suggested name -/

section suggest
variable {t : FieldTable} {name : String}

theorem suggest_eq_some_iff {declared : String} :
    t.suggest name = some declared ↔ ∃ f, t.IsNearest name f ∧ f.name = declared ∧
      0 < nameDistance name f.name ∧ nameDistance name f.name ≤ suggestionReach := by
  rw [suggest]
  constructor
  · intro h
    split at h
    · next declared' distance hnearest =>
        split at h
        · next hreach =>
            cases h
            obtain ⟨f, hf, hname, rfl⟩ := nearest_eq_some_iff.mp hnearest
            exact ⟨f, hf, hname, hreach⟩
        · cases h
    · cases h
  · rintro ⟨f, hf, rfl, hreach⟩
    rw [nearest_eq_some_iff.mpr ⟨f, hf, rfl, rfl⟩]
    exact if_pos hreach

theorem nameDistance_eq_zero_iff {written declared : String} :
    nameDistance written declared = 0 ↔ lowercase written = lowercase declared := by
  rw [nameDistance, editDistance_eq_zero_iff, String.toList_inj]

theorem exists_suggest_iff :
    (∃ declared, t.suggest name = some declared) ↔
      (∃ f ∈ t.fields, nameDistance name f.name ≤ suggestionReach) ∧
        ∀ f ∈ t.fields, lowercase name ≠ lowercase f.name := by
  simp only [suggest_eq_some_iff, ← nameDistance_eq_zero_iff.not]
  constructor
  · rintro ⟨_, f, hf, rfl, hpos, hreach⟩
    refine ⟨⟨f, hf.mem, hreach⟩, fun g hg => ?_⟩
    have hle := hf.le hg
    omega
  · rintro ⟨⟨g, hg, hreach⟩, hpos⟩
    obtain ⟨f, hf, -⟩ := exists_isNearest t.record name t.fields (List.ne_nil_of_mem hg)
    have hle : nameDistance name f.name ≤ nameDistance name g.name := hf.le hg
    have hne : nameDistance name f.name ≠ 0 := hpos f hf.mem
    exact ⟨f.name, f, hf, rfl, by omega, by omega⟩

theorem lookup_of_suggest {declared : String} (h : t.suggest name = some declared) :
    ∃ f, t.lookup declared = some f := by
  obtain ⟨f, hf, rfl, -⟩ := suggest_eq_some_iff.mp h
  refine Option.ne_none_iff_exists'.mp fun hnone => ?_
  have hsame := lookup_eq_none_iff.mp hnone f hf.mem
  rw [sameName_refl] at hsame
  cases hsame

end suggest

end FieldTable

/-! ### Names in ASCII -/

/-- All characters of the text are in ASCII. -/
def IsAscii (s : String) : Prop :=
  ∀ c ∈ s.toList, c.toNat < 128

theorem lowercaseChar_of_ascii {c : Char} (h : c.toNat < 128) :
    c ≠ 'Σ' ∧ lowercaseChar c = [c.toLower] := by
  have hall : ∀ n < 128, Char.ofNat n ≠ 'Σ' ∧
      lowercaseChar (Char.ofNat n) = [(Char.ofNat n).toLower] := by
    decide +kernel
  have hc := hall c.toNat h
  rwa [Char.ofNat_toNat] at hc

theorem lowercaseAfter_of_ascii {before cs : List Char} (h : ∀ c ∈ cs, c.toNat < 128) :
    lowercaseAfter before cs = cs.map Char.toLower := by
  induction cs generalizing before with
  | nil => rfl
  | cons c cs ih =>
      obtain ⟨hc, hcs⟩ := List.forall_mem_cons.mp h
      obtain ⟨hsigma, hlower⟩ := lowercaseChar_of_ascii hc
      rw [lowercaseAfter, if_neg hsigma, hlower, ih hcs]
      rfl

theorem sameName_of_lowercase_eq {a b : String} (ha : IsAscii a) (hb : IsAscii b)
    (h : lowercase a = lowercase b) : sameName b a = true := by
  rw [lowercase, lowercase, String.ofList_inj, lowercaseAfter_of_ascii ha,
    lowercaseAfter_of_ascii hb] at h
  rw [sameName, h, beq_self_eq_true]

/-! ### Unknown names -/

open FieldTable

/-- **What is suggested in place of an unknown name.**  A name that a table does not know is an
error that names the earliest of the nearest declared names, where nearness counts edits in
lowercase.  Something is suggested if a declared name is within three edits, unless a declared name
is the same in lowercase; so it always is if the written and the declared names are in ASCII.  What
is suggested is known. -/
theorem suggest_of_unknown {t : FieldTable} {name : String} (h : t.lookup name = none) :
    (∀ {ω : Type} [Operation ω] (operation : ω) l,
      t.comparison name operation l = .error (.unknownField name (t.suggest name))) ∧
    (∀ f ∈ t.fields, IsLeast {n | Edits n (lowercase name).toList (lowercase f.name).toList}
      (nameDistance name f.name)) ∧
    ((∃ declared, t.suggest name = some declared) ↔
      (∃ f ∈ t.fields, nameDistance name f.name ≤ 3) ∧
        ∀ f ∈ t.fields, lowercase name ≠ lowercase f.name) ∧
    (IsAscii name → (∀ f ∈ t.fields, IsAscii f.name) →
      ((∃ declared, t.suggest name = some declared) ↔
        ∃ f ∈ t.fields, nameDistance name f.name ≤ 3)) ∧
    ∀ declared, t.suggest name = some declared →
      (∃ f, t.IsNearest name f ∧ f.name = declared) ∧ ∃ f, t.lookup declared = some f := by
  refine ⟨fun operation l => ?_, fun f _ => isLeast_editDistance _ _, exists_suggest_iff,
    fun hname hfields => ?_, fun declared hd => ⟨?_, lookup_of_suggest hd⟩⟩
  · rw [FieldTable.comparison, h]
  · have hne : ∀ f ∈ t.fields, lowercase name ≠ lowercase f.name := by
      intro f hf heq
      have hsame := sameName_of_lowercase_eq hname (hfields f hf) heq
      rw [lookup_eq_none_iff.mp h f hf] at hsame
      cases hsame
    exact exists_suggest_iff.trans (and_iff_left hne)
  · obtain ⟨f, hf, hfname, -⟩ := suggest_eq_some_iff.mp hd
    exact ⟨f, hf, hfname⟩

/-- Of two names at the same distance the earlier one is suggested. -/
theorem suggest_of_unknown_tie :
    let t : FieldTable := ⟨"point", [⟨"ax", .integer⟩, ⟨"ay", .integer⟩]⟩
    t.lookup "AZ" = none ∧ t.suggest "AZ" = some "ax" ∧
      t.comparison "AZ" Comparator.eq (.integer 0) = .error (.unknownField "AZ" (some "ax")) ∧
      ∃ f, t.lookup "ax" = some f := by
  intro t
  have hnone : t.lookup "AZ" = none := by decide
  have hsuggest : t.suggest "AZ" = some "ax" := by decide +kernel
  obtain ⟨herror, -, -, -, hknown⟩ := suggest_of_unknown hnone
  exact ⟨hnone, hsuggest, hsuggest ▸ herror _ _, (hknown _ hsuggest).2⟩

/-- Nothing is suggested in place of a name that begins with a Kelvin sign, the lowercase form of
which is the letter with which the declared name begins. -/
theorem suggest_withheld :
    ¬ ∀ (t : FieldTable) (name : String), t.lookup name = none →
      (∃ f ∈ t.fields, nameDistance name f.name ≤ 3) →
        ∃ declared, t.suggest name = some declared := by
  intro h
  let t : FieldTable := ⟨"item", [⟨"kind", .text⟩]⟩
  obtain ⟨declared, hd⟩ :=
    h t "\u212Aind" (by decide) ⟨⟨"kind", .text⟩, by decide, by decide +kernel⟩
  have hnone : t.suggest "\u212Aind" = none := by decide +kernel
  rw [hnone] at hd
  cases hd

end RecordFilter
