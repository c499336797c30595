import RecordFilter.Proofs.Confinement
import RecordFilter.Proofs.FirstFault

/-! # Comparisons with a quoted text

The filter `field operator 'content'` is read as one comparison, whatever the content is, as long
as no quote ends it early (`parse_quoted`).  What the literal stands for depends on the shape of
its content alone and not on the field: a content of neither the shape of a date nor that of a time
is the text itself (`ofText_quoted_text`), and the others are no texts, so that a text field does
not take them (`ofText_quoted_shaped`).

Hence an equality filter on the names of users finds the users of the name that it quotes, unless
that name looks like a date or a time (`find_name_eq`). -/

namespace RecordFilter

/-- The text of a comparison with a quoted literal. -/
def quotedComparison (field : String) (op : Comparator) (content : String) : String :=
  field ++ " " ++ op.keyword ++ " '" ++ content ++ "'"

/-! ### Reading the filter -/

theorem Token.literal_of_shaped {t : Token} {content : List Char}
    (h : IsDateShaped content ∨ IsTimeShaped content)
    (hk : t.kind = .literal (quotedShape content)) (hx : t.lexeme.toList = inQuotes content)
    (field : String) : t.literal field = .error (.incompatible field) ∨
      ∃ l, t.literal field = .ok l ∧ ∀ v, ¬ FieldType.text.Denotes l v := by
  rcases h with h | h
  · rw [quotedShape_of_date h] at hk
    rw [literal_of_date hk hx]
    cases Date.read? content with
    | none => exact .inl rfl
    | some d => exact .inr ⟨_, rfl, fun _ h => nomatch h⟩
  · rw [quotedShape_of_time h] at hk
    rw [literal_of_time hk hx]
    cases TimeOfDay.read? content with
    | none => exact .inl rfl
    | some v => exact .inr ⟨_, rfl, fun _ h => nomatch h⟩

section reading
variable {field content : String} (hf : IsFieldName field) (op : Comparator)
  (hq : '\'' ∉ content.toList)
include hf hq

theorem parse_quoted : ∃ t : Token, t.kind = .literal (quotedShape content.toList) ∧
    t.lexeme.toList = inQuotes content.toList ∧
      Expr.parse (quotedComparison field op content) =
        .ok (.comparison field op (.ofToken t field)) := by
  obtain ⟨f, o₁, hfk, hfl, h₁⟩ := Cursor.Reads.lexeme allBlank_nil (lexeme_identifier_iff.mpr hf)
    (stops_space (op.keyword.toList ++ ' ' :: inQuotes content.toList)) 0
  obtain ⟨c, o₂, hck, -, h₂⟩ := Cursor.Reads.lexeme allBlank_space op.lexeme_keyword
    (stops_space (inQuotes content.toList)) o₁
  obtain ⟨t, o₃, htk, htl, h₃⟩ := Cursor.Reads.lexeme allBlank_space (.quoted hq)
    (TokenKind.stops_nil _) o₂
  rw [String.ofList_toList] at hfl
  rw [List.append_nil] at h₃
  have ht : tokenize (quotedComparison field op content) = .ok ([f, c, t] ++ [.ending o₃]) := by
    refine Cursor.tokens_eq_ok_iff.mpr
      ⟨[f, c, t], _, _, _, ?_, Cursor.next_blanks o₃ allBlank_nil, rfl, rfl⟩
    have h := h₁.trans (h₂.trans h₃)
    simpa [Cursor.ofString, quotedComparison, inQuotes] using h
  refine ⟨t, htk, by rw [htl, String.toList_ofList]; rfl, ?_⟩
  rw [parse_eq_ok_iff_of_tokenize ht, ← hfl]
  exact .ofConjunction (.ofAtom (.comparison hfk hck htk (resolves_iff.mpr rfl)))

variable {table : FieldTable} {declared : String}
  (hl : table.lookup field = some ⟨declared, .text⟩)
include hl

theorem ofText_quoted_text (hd : ¬ IsDateShaped content.toList)
    (ht : ¬ IsTimeShaped content.toList) :
    Predicate.ofText .standard table (quotedComparison field op content) =
      .ok (.compare declared op (.text content)) := by
  obtain ⟨t, hk, hx, hp⟩ := parse_quoted hf op hq
  rw [quotedShape_of_text hd ht] at hk
  have hv := Token.literal_of_text hk hx field
  rw [String.ofList_toList] at hv
  rw [ofText_of_parse hp, ← resolves_iff.mp (.valid hv)]
  exact compile_comparison_eq_ok_iff.mpr ⟨_, _, _, _, rfl, rfl, hl, .text content, rfl⟩

/-- A literal with the shape of a date or a time has no operand in a text field, whether or not it
stands for one. -/
theorem ofText_quoted_shaped (h : IsDateShaped content.toList ∨ IsTimeShaped content.toList) :
    ∃ name, (name = field ∨ name = declared) ∧
      Predicate.ofText .standard table (quotedComparison field op content) =
        .error (.incompatible name) := by
  obtain ⟨t, hk, hx, hp⟩ := parse_quoted hf op hq
  rw [ofText_of_parse hp]
  rcases Token.literal_of_shaped h hk hx field with he | ⟨l, he, hn⟩
  · rw [← resolves_iff.mp (.invalid he)]
    exact ⟨field, .inl rfl, rfl⟩
  · rw [← resolves_iff.mp (.valid he)]
    refine ⟨declared, .inr rfl, comparison_eq_error_iff.mpr (.inr ⟨_, hl, ?_⟩)⟩
    exact .kind (fun _ h => nomatch h) (fun h => nomatch h) hn

end reading

/-! ### Names of users -/

theorem User.matches_name_eq (name : String) (u : User) :
    (Predicate.compare "name" .eq (.text name)).matches u = decide (u.name = name) := by
  change (Ord.compare u.name name == .eq) = _
  rw [Bool.eq_iff_iff, beq_iff_eq, decide_eq_true_iff]
  exact Std.compare_eq_iff_eq

theorem isFieldName_name : IsFieldName "name" := by
  decide +kernel

theorem User.lookup_name : User.table.lookup "name" = some ⟨"name", .text⟩ := rfl

theorem find_of_ofText {α : Type} [Record α] {registry : Registry} {text : String}
    {p : Predicate} (h : Predicate.ofText registry (Record.table α) text = .ok p)
    (records : List α) :
    find registry records (some text) none none = .ok (records.filter (p.matches ·)) := by
  rw [find, Query.ofFilter, h]
  rfl

theorem find_name_shaped {name : String}
    (h : IsDateShaped name.toList ∨ IsTimeShaped name.toList) (users : List User) :
    find .standard users (some ("name eq '" ++ name ++ "'")) none none =
      .error (.incompatible "name") := by
  have hq : '\'' ∉ name.toList := by
    rcases h with ⟨_, _, _, h⟩ | ⟨_, _, _, h⟩ <;> exact h.not_mem_quote (by decide)
  obtain ⟨field, rfl | rfl, he⟩ :=
    ofText_quoted_shaped isFieldName_name .eq hq User.lookup_name h
  · exact find_eq_error_iff.mpr he
  · exact find_eq_error_iff.mpr he

/-- **An equality filter finds the name that it quotes.**  Let a name contain no quote.  Whenever
the filter `name eq '…'` that quotes it is accepted, the search returns exactly the users of that
name, in the order in which they are stored.  It is accepted if the name has neither the shape
`dddd-dd-dd` nor the shape `dd:dd:dd`.  If the name has one of these shapes but no date or time of
day is written so, then the filter is rejected, as its literal denotes nothing. -/
theorem find_name_eq {name : String} (hq : '\'' ∉ name.toList) (users : List User) :
    (∀ found, find .standard users (some ("name eq '" ++ name ++ "'")) none none = .ok found →
      found = users.filter (·.name = name)) ∧
    (¬ IsDateShaped name.toList → ¬ IsTimeShaped name.toList →
      find .standard users (some ("name eq '" ++ name ++ "'")) none none =
        .ok (users.filter (·.name = name))) ∧
    ((IsDateShaped name.toList ∧ ∀ d : Date, d.text ≠ name) ∨
        (IsTimeShaped name.toList ∧ ∀ t : TimeOfDay, t.nanosecond = 0 → t.text ≠ name) →
      find .standard users (some ("name eq '" ++ name ++ "'")) none none =
        .error (.incompatible "name")) := by
  have ht (hd : ¬ IsDateShaped name.toList) (ht : ¬ IsTimeShaped name.toList) :
      find .standard users (some ("name eq '" ++ name ++ "'")) none none =
        .ok (users.filter (·.name = name)) := by
    have hp := ofText_quoted_text isFieldName_name .eq hq User.lookup_name hd ht
    have hf : find .standard users _ none none = .ok _ := find_of_ofText hp users
    simp only [User.matches_name_eq] at hf
    exact hf
  refine ⟨fun found h => ?_, ht, fun h => ?_⟩
  · by_cases hs : IsDateShaped name.toList ∨ IsTimeShaped name.toList
    · rw [find_name_shaped hs] at h
      cases h
    · rw [not_or] at hs
      rw [ht hs.1 hs.2] at h
      exact (Except.ok.inj h).symm
  · refine find_name_shaped ?_ users
    rcases h with ⟨h, -⟩ | ⟨h, -⟩
    · exact .inl h
    · exact .inr h

/-- A name that is nearly a date is found, and one that is written as a date that does not exist is
refused. -/
theorem find_name_eq_nearly :
    find .standard [⟨1, 0, "2019-3-28", .user⟩, ⟨2, 0, "2019-03-28", .admin⟩,
        ⟨3, 0, "2019-3-28", .manager⟩] (some "name eq '2019-3-28'") none none =
      .ok [(⟨1, 0, "2019-3-28", .user⟩ : User), ⟨3, 0, "2019-3-28", .manager⟩] ∧
    find .standard [(⟨1, 0, "2018-20-20", .user⟩ : User)] (some "name eq '2018-20-20'") none none =
      .error (.incompatible "name") := by
  have hs : quotedShape "2019-3-28".toList = .text := by decide
  have hd : IsDateShaped "2018-20-20".toList :=
    ⟨"2018".toList, "20".toList, "20".toList, by decide, by decide, by decide, rfl⟩
  have hn : Date.read? "2018-20-20".toList = none := by decide
  have ht₁ : "name eq '2019-3-28'" = "name eq '" ++ "2019-3-28" ++ "'" := by decide
  have ht₂ : "name eq '2018-20-20'" = "name eq '" ++ "2018-20-20" ++ "'" := by decide
  rw [ht₁, ht₂]
  constructor
  · refine ((find_name_eq (by decide) _).2.1 (fun h => ?_) (fun h => ?_)).trans (by decide)
    · rw [quotedShape_of_date h] at hs
      cases hs
    · rw [quotedShape_of_time h] at hs
      cases hs
  · refine (find_name_eq (by decide) _).2.2 (.inl ⟨hd, fun d hc => ?_⟩)
    have hr := (Date.read?_eq_some_iff hd).mpr (by rw [← hc, Date.text, String.toList_ofList])
    rw [hn] at hr
    cases hr

/-- A name that is written as a date is not found, whether or not there is such a date. -/
theorem find_name_eq_calendar :
    find .standard [(⟨1, 0, "2018-20-20", .user⟩ : User)] (some "name eq '2018-20-20'") none none =
      .error (.incompatible "name") ∧
    find .standard [(⟨1, 0, "2019-03-28", .user⟩ : User)] (some "name eq '2019-03-28'") none none =
      .error (.incompatible "name") ∧
    ¬ ∀ (name : String) (users : List User), '\'' ∉ name.toList →
      find .standard users (some ("name eq '" ++ name ++ "'")) none none =
        .ok (users.filter (·.name = name)) := by
  have h₁ : IsDateShaped "2018-20-20".toList :=
    ⟨"2018".toList, "20".toList, "20".toList, by decide, by decide, by decide, rfl⟩
  have h₂ : IsDateShaped "2019-03-28".toList :=
    ⟨"2019".toList, "03".toList, "28".toList, by decide, by decide, by decide, rfl⟩
  have ht₁ : "name eq '2018-20-20'" = "name eq '" ++ "2018-20-20" ++ "'" := by decide
  have ht₂ : "name eq '2019-03-28'" = "name eq '" ++ "2019-03-28" ++ "'" := by decide
  rw [ht₁, ht₂]
  refine ⟨find_name_shaped (.inl h₁) _, find_name_shaped (.inl h₂) _, fun h => ?_⟩
  have hf := h "2018-20-20" [] (by decide)
  rw [find_name_shaped (.inl h₁)] at hf
  cases hf

end RecordFilter
