import RecordFilter.Program
import RecordFilter.Proofs.FirstFault

/-! # Previews

A filter can be shown before it is applied.  What is shown for a kind of record stands or falls with
the search of such records, and its failure is that of the search.  The printed grouping is itself a
filter, which is shown as it stands and finds what the first one finds.  Without a kind of record
the tree is only looked through for a literal that denotes nothing; the first one of the tree is the
first one of the text (`firstInvalid_eq_some_iff`), and no compilation gets past it
(`firstInvalid_of_compile`).  `preview_agrees_with_find` puts this together. -/

namespace RecordFilter

/-! ### The records of a kind -/

/-- The type of the records of a kind. -/
def RecordKind.Stored : RecordKind → Type
  | .user => User
  | .jogging => Jogging

instance (kind : RecordKind) : Record kind.Stored :=
  match kind with
  | .user => inferInstanceAs (Record User)
  | .jogging => inferInstanceAs (Record Jogging)

theorem RecordKind.table_stored (kind : RecordKind) : Record.table kind.Stored = kind.table := by
  cases kind <;> rfl

/-! ### Literals that denote nothing -/

/-- The first comparison of a text, in reading order, whose literal denotes nothing. -/
def FirstWithoutValue (text : String) (c : Comparison) : Prop :=
  ∃ ts t before after, tokenize text = .ok (ts ++ [t]) ∧ comparisons ts = before ++ c :: after ∧
    DenotesNothing c.literal.lexeme.toList ∧
    ∀ b ∈ before, ¬ DenotesNothing b.literal.lexeme.toList

theorem Comparison.firstInvalid_expr {c : Comparison} {err : FilterError} :
    c.expr.firstInvalid = some err ↔ c.literal.literal c.field = .error err := by
  unfold expr WrittenLiteral.ofToken
  cases c.literal.literal c.field <;> simp [Expr.firstInvalid]

theorem firstInvalid_expr_of_mem {text : String} {ts : List Token} {t : Token} {e : Expr}
    (ht : tokenize text = .ok (ts ++ [t])) (h : Derives .expression ts e) {c : Comparison}
    (hc : c ∈ comparisons ts) {err : FilterError} :
    c.expr.firstInvalid = some err ↔
      err = .incompatible c.field ∧ DenotesNothing c.literal.lexeme.toList := by
  obtain ⟨shape, hk, hl⟩ := exists_shape_of_mem ht h hc
  rw [Comparison.firstInvalid_expr, literal_eq_error_iff hk hl]

/-- The tree of a text has an invalid literal exactly if the text has one, and the first one of the
tree is the first one of the text. -/
theorem firstInvalid_eq_some_iff {text : String} {e : Expr} (h : Expr.parse text = .ok e)
    {err : FilterError} :
    e.firstInvalid = some err ↔ ∃ c, FirstWithoutValue text c ∧ err = .incompatible c.field := by
  obtain ⟨ts, t, ht, hd⟩ := exists_derives_of_parse h
  have hfirst : e.firstInvalid = (comparisons ts).findSome? fun c => c.expr.firstInvalid :=
    hd.findSome?_comparisons fun _ _ _ => rfl
  rw [hfirst, List.findSome?_eq_some_iff]
  constructor
  · rintro ⟨before, c, after, hts, hc, hbefore⟩
    have hvalue := (firstInvalid_expr_of_mem ht hd (hts ▸ by simp)).mp hc
    refine ⟨c, ⟨ts, t, before, after, ht, hts, hvalue.2, fun b hb hnothing => ?_⟩, hvalue.1⟩
    have hinvalid := (firstInvalid_expr_of_mem ht hd (hts ▸ by simp [hb])).mpr ⟨rfl, hnothing⟩
    rw [hbefore b hb] at hinvalid
    cases hinvalid
  · rintro ⟨c, ⟨ts', t', before, after, ht', hts, hc, hbefore⟩, rfl⟩
    rw [ht] at ht'
    obtain ⟨rfl, -⟩ := List.append_inj' (Except.ok.inj ht') rfl
    refine ⟨before, c, after, hts,
      (firstInvalid_expr_of_mem ht hd (hts ▸ by simp)).mpr ⟨rfl, hc⟩, fun b hb => ?_⟩
    refine Option.eq_none_iff_forall_ne_some.mpr fun err hinvalid => ?_
    exact hbefore b hb ((firstInvalid_expr_of_mem ht hd (hts ▸ by simp [hb])).mp hinvalid).2

theorem firstInvalid_of_compile {registry : Registry} {table : FieldTable} {e : Expr}
    {p : Predicate} (h : e.compile registry table = .ok p) : e.firstInvalid = none := by
  induction e generalizing p with
  | comparison field op value =>
      obtain ⟨l, _, _, _, rfl, -⟩ := compile_comparison_eq_ok_iff.mp h
      rfl
  | binary op left right ihl ihr =>
      obtain ⟨q, s, hl, hr, -⟩ := compile_binary_eq_ok_iff.mp h
      rw [Expr.firstInvalid, ihl hl, ihr hr]
      rfl

/-! ### What is shown -/

namespace Preview

section cases
variable {filter : String} {e : Expr}

theorem ofFilter_of_parse_error {err : FilterError} (h : Expr.parse filter = .error err)
    (kind : Option RecordKind) : ofFilter filter kind = .error err := by
  rw [ofFilter, h]
  rfl

theorem ofFilter_none_of_parse (h : Expr.parse filter = .ok e) :
    ofFilter filter none = match e.firstInvalid with
      | some err => .error err
      | none => .ok ⟨e.display, none⟩ := by
  rw [ofFilter, h]
  rfl

theorem ofFilter_some_of_parse (h : Expr.parse filter = .ok e) (kind : RecordKind) :
    ofFilter filter (some kind) =
      (e.compile .standard kind.table).map fun p => ⟨e.display, some p.display⟩ := by
  rw [ofFilter, h]
  change (do
    let p ← Predicate.ofText .standard kind.table filter
    return _) = _
  rw [ofText_of_parse h]
  cases e.compile .standard kind.table <;> rfl

theorem ofFilter_congr_parse {filter' : String} (h : Expr.parse filter = .ok e)
    (h' : Expr.parse filter' = .ok e) (kind : Option RecordKind) :
    ofFilter filter' kind = ofFilter filter kind := by
  cases kind with
  | none => rw [ofFilter_none_of_parse h, ofFilter_none_of_parse h']
  | some kind => rw [ofFilter_some_of_parse h, ofFilter_some_of_parse h']

theorem parse_of_ofFilter {kind : Option RecordKind} {shown : Preview}
    (h : ofFilter filter kind = .ok shown) :
    ∃ e, Expr.parse filter = .ok e ∧ shown.expression = e.display := by
  cases hp : Expr.parse filter with
  | error err =>
      rw [ofFilter_of_parse_error hp] at h
      cases h
  | ok e =>
      refine ⟨e, rfl, ?_⟩
      cases kind with
      | none =>
          rw [ofFilter_none_of_parse hp] at h
          split at h
          · cases h
          · cases h
            rfl
      | some kind =>
          rw [ofFilter_some_of_parse hp] at h
          cases hc : e.compile .standard kind.table with
          | error err =>
              rw [hc] at h
              cases h
          | ok p =>
              rw [hc] at h
              cases h
              rfl

end cases

theorem ofFilter_some_eq_map (filter : String) (kind : RecordKind) : ∃ expression,
    ofFilter filter (some kind) =
      (Predicate.ofText .standard kind.table filter).map fun p => ⟨expression, some p.display⟩ := by
  cases hp : Expr.parse filter with
  | error err =>
      refine ⟨"", ?_⟩
      rw [ofFilter_of_parse_error hp, ofText_of_parse_error hp]
      rfl
  | ok e =>
      refine ⟨e.display, ?_⟩
      rw [ofFilter_some_of_parse hp, ofText_of_parse hp]

theorem ofFilter_some_eq_error_iff {filter : String} {kind : RecordKind} {err : FilterError} :
    ofFilter filter (some kind) = .error err ↔
      Predicate.ofText .standard kind.table filter = .error err := by
  obtain ⟨expression, h⟩ := ofFilter_some_eq_map filter kind
  rw [h]
  cases Predicate.ofText .standard kind.table filter <;> simp [Except.map]

theorem exists_ofFilter_some_iff {filter : String} {kind : RecordKind} :
    (∃ shown, ofFilter filter (some kind) = .ok shown) ↔
      ∃ p, Predicate.ofText .standard kind.table filter = .ok p := by
  obtain ⟨expression, h⟩ := ofFilter_some_eq_map filter kind
  rw [h]
  cases Predicate.ofText .standard kind.table filter <;> simp [Except.map]

/-- Without a kind of record a filter fails with the error of the parser, or for the first literal
that denotes nothing. -/
theorem ofFilter_none_eq_error_iff {filter : String} {err : FilterError} :
    ofFilter filter none = .error err ↔ Expr.parse filter = .error err ∨
      (∃ e, Expr.parse filter = .ok e) ∧
        ∃ c, FirstWithoutValue filter c ∧ err = .incompatible c.field := by
  cases hp : Expr.parse filter with
  | error err' =>
      rw [ofFilter_of_parse_error hp]
      simp
  | ok e =>
      rw [ofFilter_none_of_parse hp, ← firstInvalid_eq_some_iff hp]
      cases e.firstInvalid <;> simp

theorem exists_ofFilter_some_error {filter : String} {err : FilterError}
    (h : ofFilter filter none = .error err) (kind : RecordKind) :
    ∃ err', ofFilter filter (some kind) = .error err' := by
  cases hp : Expr.parse filter with
  | error err' => exact ⟨err', ofFilter_of_parse_error hp _⟩
  | ok e =>
      cases hc : e.compile .standard kind.table with
      | error err' => exact ⟨err', ofFilter_some_eq_error_iff.mpr ((ofText_of_parse hp).trans hc)⟩
      | ok p =>
          rw [ofFilter_none_of_parse hp, firstInvalid_of_compile hc] at h
          cases h

end Preview

/-- **A preview is faithful to the search.**  A filter is shown for a kind of record if and only if
every search of such records by it succeeds, and otherwise fails with the error of the search.  What
is printed of a filter that is shown can be used in its place: it is shown as the same, and every
search of records of either kind answers as before.  Without a kind of record, a filter fails for
what the parser finds wrong, or else for the first of its literals that denotes nothing, and then it
fails for both kinds. -/
theorem preview_agrees_with_find (filter : String) :
    (∀ (kind : RecordKind) (records : List kind.Stored) (page : Option Page),
      ((∃ shown, Preview.ofFilter filter (some kind) = .ok shown) ↔
        ∃ found, find .standard records (some filter) page none = .ok found) ∧
      ∀ err, Preview.ofFilter filter (some kind) = .error err ↔
        find .standard records (some filter) page none = .error err) ∧
    (∀ kind? shown, Preview.ofFilter filter kind? = .ok shown →
      Preview.ofFilter shown.expression kind? = .ok shown ∧
      ∀ (kind : RecordKind) (records : List kind.Stored) (page : Option Page)
        (extra : Option Predicate), find .standard records (some shown.expression) page extra =
          find .standard records (some filter) page extra) ∧
    (∀ err, Preview.ofFilter filter none = .error err ↔ Expr.parse filter = .error err ∨
      (∃ e, Expr.parse filter = .ok e) ∧
        ∃ c, FirstWithoutValue filter c ∧ err = .incompatible c.field) ∧
    ∀ err, Preview.ofFilter filter none = .error err →
      ∀ kind, ∃ err', Preview.ofFilter filter (some kind) = .error err' := by
  refine ⟨fun kind records page => ?_, fun kind? shown h => ?_,
    fun err => Preview.ofFilter_none_eq_error_iff, fun err => Preview.exists_ofFilter_some_error⟩
  · rw [exists_find_eq_ok_iff, kind.table_stored]
    refine ⟨Preview.exists_ofFilter_some_iff, fun err => ?_⟩
    rw [find_eq_error_iff, kind.table_stored, Preview.ofFilter_some_eq_error_iff]
  · obtain ⟨e, he, hexpression⟩ := Preview.parse_of_ofFilter h
    have hagain : Expr.parse shown.expression = .ok e := by
      rw [hexpression, parse_display (wellFormed_of_parse he)]
    refine ⟨?_, fun kind records page extra => find_congr_parse he hagain⟩
    rw [Preview.ofFilter_congr_parse he hagain, h]

/-- A number loses its zeros when it is printed, which changes no answer, though the filter is none
for sessions.  A date that is none counts although an unknown role stands before it, unless the kind
of record is known. -/
theorem preview_agrees_with_find_rockstar :
    let shown : Preview :=
      ⟨"((Name ne 'x') OR (id gt 7))", some "(name <> 'x' OR id > 7)"⟩
    Preview.ofFilter "Name ne 'x' or id gt 007" (some .user) = .ok shown ∧
      Preview.ofFilter shown.expression (some .user) = .ok shown ∧
      (∀ (joggings : List Jogging) (page : Option Page),
        find .standard joggings (some shown.expression) page none =
          find .standard joggings (some "Name ne 'x' or id gt 007") page none) ∧
      Preview.ofFilter "role eq 'rockstar' and date eq '2018-20-20'" none =
        .error (.incompatible "date") ∧
      (∃ err, Preview.ofFilter "role eq 'rockstar' and date eq '2018-20-20'" (some .user) =
        .error err) ∧
      ∀ (users : List User) (page : Option Page),
        find .standard users (some "role eq 'rockstar' and date eq '2018-20-20'") page none =
          .error (.unknownVariant "role" "rockstar") := by
  intro shown
  have hshown : Preview.ofFilter "Name ne 'x' or id gt 007" (some .user) = .ok shown := by
    decide +kernel
  have hnone : Preview.ofFilter "role eq 'rockstar' and date eq '2018-20-20'" none =
      .error (.incompatible "date") := by
    decide +kernel
  have huser : Preview.ofFilter "role eq 'rockstar' and date eq '2018-20-20'" (some .user) =
      .error (.unknownVariant "role" "rockstar") := by
    decide +kernel
  obtain ⟨-, hagain, -⟩ := preview_agrees_with_find "Name ne 'x' or id gt 007"
  obtain ⟨hfind, -, -, hfails⟩ :=
    preview_agrees_with_find "role eq 'rockstar' and date eq '2018-20-20'"
  exact ⟨hshown, (hagain _ _ hshown).1,
    fun joggings page => (hagain _ _ hshown).2 .jogging joggings page none, hnone,
    hfails _ hnone .user, fun users page => ((hfind .user users page).2 _).mp huser⟩

end RecordFilter
