import RecordFilter.Proofs.Compilation
import RecordFilter.Proofs.Tiling

/-! # What literal tokens denote

A literal token spells a number, a day, a time of day or a text, and it denotes what it spells if
that is a value: an integer of 64 bits, however long its numeral is, a day of the Gregorian calendar
(`isDate_iff`), a time of day without leap seconds, or any text (`Token.DenotesSpelled`).  Every
other literal token is incompatible with the field that is compared with it (`Token.DenotesIff`).
The value of a quotation is written as its content again (`Token.asText_of_quoted`), so that an
enumeration looks up this content whatever shape it has (`comparison_of_enum`). -/

namespace RecordFilter

/-! ### The calendar -/

/-- The years with a 29 February: each fourth year, but of the centuries only each fourth. -/
def IsLeap (year : Nat) : Prop :=
  4 ∣ year ∧ (100 ∣ year → 400 ∣ year)

/-- The days of the proleptic Gregorian calendar from the year 0 on. -/
def IsGregorian (year month day : Nat) : Prop :=
  1 ≤ day ∧ (month ∈ [1, 3, 5, 7, 8, 10, 12] ∧ day ≤ 31 ∨ month ∈ [4, 6, 9, 11] ∧ day ≤ 30 ∨
    month = 2 ∧ (day ≤ 28 ∨ day = 29 ∧ IsLeap year))

theorem isLeapYear_iff {year : Nat} : isLeapYear year = true ↔ IsLeap year := by
  simp only [isLeapYear, IsLeap, Bool.and_eq_true, Bool.or_eq_true, bne_iff_ne, beq_iff_eq]
  omega

theorem daysInMonth_february (year : Nat) (day : Nat) :
    day ≤ daysInMonth year 2 ↔ day ≤ 28 ∨ day = 29 ∧ IsLeap year := by
  rw [daysInMonth, if_pos rfl, ← isLeapYear_iff]
  split
  · next h =>
      simp only [h, and_true]
      omega
  · next h =>
      simp only [h, Bool.false_eq_true, and_false, or_false]

/-- The dates of a year of four digits are its days in the calendar. -/
theorem isDate_iff {year month day : Nat} (hy : year < 10 ^ 4) :
    IsDate year month day ↔ IsGregorian year month day := by
  have hr : -262143 ≤ (year : Int) ∧ (year : Int) ≤ 262142 := by omega
  -- Only the length of February depends on the year.
  by_cases hm : month = 2
  · subst hm
    simp [IsDate, IsGregorian, hr, daysInMonth_february]
  · have hd : daysInMonth year month =
        if month = 4 ∨ month = 6 ∨ month = 9 ∨ month = 11 then 30 else 31 := if_neg hm
    simp only [IsDate, IsGregorian, hd, hm, false_and, or_false, List.mem_cons, List.not_mem_nil]
    by_cases h30 : month = 4 ∨ month = 6 ∨ month = 9 ∨ month = 11
    · rw [if_pos h30]
      omega
    · rw [if_neg h30]
      omega

/-! ### The outcome for a token -/

/-- Under the condition the token denotes a literal with the property, and else the token is
incompatible with the field. -/
structure Token.DenotesIff (t : Token) (field : String) (condition : Prop)
    (value : Literal → Prop) : Prop where
  resolves : condition → ∃ l, t.literal field = .ok l ∧ value l
  fails : ¬ condition → t.literal field = .error (.incompatible field)

/-- What a literal token of a shape spells, and what it denotes in a comparison of a field. -/
def Token.DenotesSpelled (t : Token) (field : String) : LiteralShape → Prop
  | .decimal => ∃ n, SpellsInteger t.lexeme.toList n ∧
      t.DenotesIff field (-2 ^ 63 ≤ n ∧ n ≤ 2 ^ 63 - 1) fun l =>
        ∃ v : Int64, l = .integer v ∧ v.toInt = n
  | .text => ∃ content, t.lexeme.toList = inQuotes content ∧
      t.DenotesIff field True (· = .text (String.ofList content))
  | .date => ∃ content year month day, t.lexeme.toList = inQuotes content ∧
      Grouped '-' 4 content year month day ∧
      t.DenotesIff field (IsGregorian (digitsValue year) (digitsValue month) (digitsValue day))
        fun l => ∃ v : Date, l = .date v ∧
          v.year = digitsValue year ∧ v.month = digitsValue month ∧ v.day = digitsValue day
  | .time => ∃ content hour minute second, t.lexeme.toList = inQuotes content ∧
      Grouped ':' 2 content hour minute second ∧
      t.DenotesIff field
        (digitsValue hour < 24 ∧ digitsValue minute < 60 ∧ digitsValue second < 60)
        fun l => ∃ v : TimeOfDay, l = .time v ∧ v.hour = digitsValue hour ∧
          v.minute = digitsValue minute ∧ v.second = digitsValue second ∧ v.nanosecond = 0

namespace Token

variable {t : Token} {field : String}

/-- A token whose value may be missing denotes one exactly if there is one. -/
theorem denotesIff_of_option {α : Type} (found : Option α) {mk : α → Literal} {condition : Prop}
    {value : α → Prop} (hsome : ∀ v, found = some v → t.literal field = .ok (mk v))
    (hnone : found = none → t.literal field = .error (.incompatible field))
    (hv : ∀ v, found = some v ↔ value v) (hc : condition ↔ ∃ v, value v) :
    t.DenotesIff field condition fun l => ∃ v, l = mk v ∧ value v := by
  constructor
  · intro hcond
    obtain ⟨v, hval⟩ := hc.mp hcond
    exact ⟨mk v, hsome v ((hv v).mpr hval), v, rfl, hval⟩
  · intro hcond
    refine hnone (Option.eq_none_iff_forall_ne_some.mpr fun v hf => ?_)
    exact hcond (hc.mpr ⟨v, (hv v).mp hf⟩)

theorem DenotesIff.error_eq {condition : Prop} {value : Literal → Prop} {err : FilterError}
    (h : t.DenotesIff field condition value) (he : t.literal field = .error err) :
    err = .incompatible field := by
  by_cases hc : condition
  · obtain ⟨l, hl, -⟩ := h.resolves hc
    rw [he] at hl
    cases hl
  · have hf := h.fails hc
    rw [he] at hf
    exact Except.error.inj hf

theorem DenotesSpelled.error_eq {shape : LiteralShape} {err : FilterError}
    (h : t.DenotesSpelled field shape) (he : t.literal field = .error err) :
    err = .incompatible field := by
  cases shape with
  | decimal =>
      obtain ⟨_, _, h⟩ := h
      exact h.error_eq he
  | text =>
      obtain ⟨_, _, h⟩ := h
      exact h.error_eq he
  | date | time =>
      obtain ⟨_, _, _, _, _, _, h⟩ := h
      exact h.error_eq he

/-! ### The shapes one by one -/

theorem denotesSpelled_decimal (hk : t.kind = .literal .decimal)
    (hl : Lexeme (.literal .decimal) t.lexeme.toList) : t.DenotesSpelled field .decimal := by
  obtain ⟨n, hs⟩ := lexeme_decimal_iff.mp hl
  have hlit := literal_of_decimal hk hs field
  refine ⟨n, hs, denotesIff_of_option (toInt64? n) (fun v hv => by rw [hlit, hv])
    (fun hv => by rw [hlit, hv]) (fun v => toInt64?_eq_some_iff) ?_⟩
  constructor
  · intro hr
    have hn : toInt64? n ≠ none := by
      rw [ne_eq, toInt64?_eq_none_iff]
      omega
    obtain ⟨v, hv⟩ := Option.ne_none_iff_exists'.mp hn
    exact ⟨v, toInt64?_eq_some_iff.mp hv⟩
  · rintro ⟨v, rfl⟩
    exact ⟨v.le_toInt, Int.le_sub_one_of_lt v.toInt_lt⟩

theorem denotesSpelled_date (hk : t.kind = .literal .date)
    (hl : Lexeme (.literal .date) t.lexeme.toList) : t.DenotesSpelled field .date := by
  obtain ⟨content, hq, -, y, m, d, hg⟩ := (lexeme_quoted_iff (by decide)).mp hl
  have hlit := literal_of_date hk hq field
  refine ⟨content, y, m, d, hq, hg, denotesIff_of_option (Date.read? content)
    (fun v hv => by rw [hlit, hv]) (fun hv => by rw [hlit, hv]) ?_ ?_⟩
  · intro v
    rw [Date.read?_grouped hg, Date.ofNumbers?_eq_some_iff]
  · rw [← isDate_iff (digitsValue_lt hg.1)]
    constructor
    · intro h
      exact ⟨⟨_, _, _, h⟩, rfl, rfl, rfl⟩
    · rintro ⟨v, hy, hm, hd⟩
      have := v.isDate
      rwa [hy, hm, hd] at this

theorem denotesSpelled_time (hk : t.kind = .literal .time)
    (hl : Lexeme (.literal .time) t.lexeme.toList) : t.DenotesSpelled field .time := by
  obtain ⟨content, hq, -, h, m, s, hg⟩ := (lexeme_quoted_iff (by decide)).mp hl
  have hlit := literal_of_time hk hq field
  refine ⟨content, h, m, s, hq, hg, denotesIff_of_option (TimeOfDay.read? content)
    (fun v hv => by rw [hlit, hv]) (fun hv => by rw [hlit, hv]) ?_ ?_⟩
  · intro v
    rw [TimeOfDay.read?_grouped hg, TimeOfDay.ofNumbers?_eq_some_iff]
  · constructor
    · rintro ⟨hh, hm, hs⟩
      exact ⟨⟨_, _, _, 0, hh, hm, hs, .inl (by decide)⟩, rfl, rfl, rfl, rfl⟩
    · rintro ⟨v, hh, hm, hs, -⟩
      rw [← hh, ← hm, ← hs]
      exact ⟨v.isTimeOfDay.1, v.isTimeOfDay.2.1, v.isTimeOfDay.2.2.1⟩

theorem denotesSpelled_text (hk : t.kind = .literal .text)
    (hl : Lexeme (.literal .text) t.lexeme.toList) : t.DenotesSpelled field .text := by
  obtain ⟨content, hq, -, -⟩ := (lexeme_quoted_iff (by decide)).mp hl
  refine ⟨content, hq, fun _ => ⟨_, literal_of_text hk hq field, rfl⟩, fun h => ?_⟩
  exact absurd trivial h

theorem denotesSpelled {shape : LiteralShape} (hk : t.kind = .literal shape)
    (hl : Lexeme (.literal shape) t.lexeme.toList) : t.DenotesSpelled field shape := by
  cases shape with
  | decimal => exact denotesSpelled_decimal hk hl
  | date => exact denotesSpelled_date hk hl
  | time => exact denotesSpelled_time hk hl
  | text => exact denotesSpelled_text hk hl

/-! ### The text of a value -/

theorem asText_of_quoted {shape : LiteralShape} {content : List Char} {l : Literal}
    (hk : t.kind = .literal shape) (hl : Lexeme (.literal shape) t.lexeme.toList)
    (hq : t.lexeme.toList = inQuotes content) (hv : t.literal field = .ok l) :
    l.asText = String.ofList content := by
  cases shape with
  | decimal =>
      -- A numeral is no quotation, as it has no quotes.
      obtain ⟨n, hs⟩ := lexeme_decimal_iff.mp hl
      have hm : '\'' ∈ t.lexeme.toList := hq ▸ List.mem_cons_self
      exact absurd hm hs.not_mem_quote
  | text =>
      rw [literal_of_text hk hq] at hv
      cases hv
      rfl
  | date =>
      obtain ⟨_, hq', -, hd⟩ := (lexeme_quoted_iff (by decide)).mp hl
      obtain rfl := inQuotes_inj (hq.symm.trans hq')
      rw [literal_of_date hk hq] at hv
      split at hv
      · next d hr =>
          cases hv
          rw [Literal.asText, Date.text, (Date.read?_eq_some_iff hd).mp hr]
      · cases hv
  | time =>
      obtain ⟨_, hq', -, ht⟩ := (lexeme_quoted_iff (by decide)).mp hl
      obtain rfl := inQuotes_inj (hq.symm.trans hq')
      rw [literal_of_time hk hq] at hv
      split at hv
      · next v hr =>
          cases hv
          rw [Literal.asText, TimeOfDay.text, ((TimeOfDay.read?_eq_some_iff ht).mp hr).1]
      · cases hv

end Token

/-- **Literals denote what they spell.**  Every literal token that the lexer yields denotes the
number, the day, the time of day or the text that it spells, if this is a value of its kind.  If it
is none, every comparison of a field with the token is rejected as incompatible with the field.
The value of a quotation is written as its content, by which an enumeration tells its variants. -/
theorem literal_denotes_spelled {s s' : Cursor} {t : Token} {shape : LiteralShape}
    (hn : s.next = (.ok t, s')) (hk : t.kind = .literal shape) (field : String) :
    t.DenotesSpelled field shape ∧
    (∀ err, t.literal field = .error err → err = .incompatible field ∧
      ∀ op {ω : Type} [Operation ω] (registry : Registry ω) table,
        (Expr.comparison field op (.ofToken t field)).compile registry table =
          .error (.incompatible field)) ∧
    ∀ content l, t.lexeme.toList = inQuotes content → t.literal field = .ok l →
      l.asText = String.ofList content ∧
      ∀ op (registry : Registry) table meaning f e, registry.meaning op = some meaning →
        FieldTable.lookup table field = some f → f.type = .enum e →
        (Expr.comparison field op (.ofToken t field)).compile registry table =
          match e.variants.idxOf? (String.ofList content) with
          | some place => .ok (.compare f.name meaning (.enum ⟨place, String.ofList content⟩))
          | none => .error (.unknownVariant e.name (String.ofList content)) := by
  have hl := Cursor.lexeme_kind_of_next hn (by simp [hk])
  rw [hk] at hl
  have hd : t.DenotesSpelled field shape := Token.denotesSpelled hk hl
  refine ⟨hd, ?_, ?_⟩
  · intro err he
    obtain rfl := hd.error_eq he
    refine ⟨rfl, fun op ω _ registry table => ?_⟩
    rw [WrittenLiteral.ofToken, he]
    rfl
  · intro content l hq hv
    have hc : l.asText = String.ofList content := Token.asText_of_quoted hk hl hq hv
    refine ⟨hc, ?_⟩
    intro op registry table meaning f e hm hf he
    rw [WrittenLiteral.ofToken, hv, compile_valid, hm, ← hc]
    exact comparison_of_enum hf he meaning l

/-- The day that the centuries 1700, 1800 and 1900 lack and 2000 has is a value, and an enumeration
of days finds it under its name. -/
theorem literal_denotes_spelled_leapDay :
    (Cursor.ofString " '2000-02-29')").next =
      (.ok ⟨.literal .date, "'2000-02-29'", 1⟩, ⟨[')'], 13⟩) ∧
    (Expr.comparison "day" .ne (.ofToken ⟨.literal .date, "'2000-02-29'", 1⟩ "day")).compile
        .standard ⟨"Event", [⟨"day", .enum ⟨"Day", ["1900-02-28", "2000-02-29"]⟩⟩]⟩ =
      .ok (.compare "day" .ne (.enum ⟨1, "2000-02-29"⟩)) := by
  have hn : (Cursor.ofString " '2000-02-29')").next =
      (.ok ⟨.literal .date, "'2000-02-29'", 1⟩, ⟨[')'], 13⟩) := rfl
  have hv : (⟨.literal .date, "'2000-02-29'", 1⟩ : Token).literal "day" =
      .ok (.date ⟨2000, 2, 29, by decide⟩) := rfl
  obtain ⟨-, -, h⟩ := literal_denotes_spelled hn rfl "day"
  obtain ⟨-, hc⟩ := h "2000-02-29".toList _ rfl hv
  exact ⟨hn, hc .ne .standard ⟨"Event", [⟨"day", .enum ⟨"Day", ["1900-02-28", "2000-02-29"]⟩⟩]⟩ .ne
    ⟨"day", .enum ⟨"Day", ["1900-02-28", "2000-02-29"]⟩⟩ _ rfl rfl rfl⟩

end RecordFilter
