import RecordFilter.Expr
import RecordFilter.Proofs.CalendarText

/-! # Literal tokens and their values

A literal token is a decimal numeral or a quotation (`Lexeme.literal_cases`).  The lemmas
`Token.literal_of_decimal`, `literal_of_text`, `literal_of_date` and `literal_of_time` say which
value each of them denotes: a numeral the integer it spells, if that has 64
bits, and a quotation its content, the date or the time written there, if there is one. -/

namespace RecordFilter

/-- `SpellsInteger cs n`: the text consists of digits, perhaps behind a minus sign, and spells the
integer `n`. -/
def SpellsInteger (cs : List Char) (n : Int) : Prop :=
  ∃ digits, digits ≠ [] ∧ (∀ c ∈ digits, c.isDigit = true) ∧
    (cs = digits ∧ n = digitsValue digits ∨ cs = '-' :: digits ∧ n = -digitsValue digits)

/-- A content between single quotes. -/
def inQuotes (content : List Char) : List Char :=
  '\'' :: content ++ ['\'']

/-! ### Numerals and quotations -/

theorem lexeme_decimal_iff {cs : List Char} :
    Lexeme (.literal .decimal) cs ↔ ∃ n, SpellsInteger cs n := by
  constructor
  · intro h
    generalize hk : TokenKind.literal .decimal = k at h
    cases h with
    | leftParen | rightParen => cases hk
    | @quoted content _ =>
        have h1 := quotedShape_continuedBy content '0'
        rw [← hk] at h1
        cases h1
    | decimal hne hd => exact ⟨_, cs, hne, hd, .inl ⟨rfl, rfl⟩⟩
    | @negative digits hne hd => exact ⟨_, digits, hne, hd, .inr ⟨rfl, rfl⟩⟩
    | @word c cs _ _ =>
        rcases wordKind_cases (c :: cs) with h | ⟨_, h⟩ | ⟨_, h⟩ <;> rw [h] at hk <;> cases hk
  · rintro ⟨n, digits, hne, hd, ⟨rfl, -⟩ | ⟨rfl, -⟩⟩
    · exact .decimal hne hd
    · exact .negative hne hd

/-- The text of a literal token is a numeral or a quotation. -/
theorem Lexeme.literal_cases {shape : LiteralShape} {cs : List Char}
    (h : Lexeme (.literal shape) cs) : (shape = .decimal ∧ ∃ n, SpellsInteger cs n) ∨
      ∃ content, '\'' ∉ content ∧ shape = quotedShape content ∧ cs = inQuotes content := by
  by_cases hs : shape = .decimal
  · subst hs
    exact .inl ⟨rfl, lexeme_decimal_iff.mp h⟩
  · generalize hk : TokenKind.literal shape = k at h
    cases h with
    | leftParen | rightParen => cases hk
    | @quoted content hq => exact .inr ⟨content, hq, TokenKind.literal.inj hk, rfl⟩
    | decimal | negative => exact absurd (TokenKind.literal.inj hk) hs
    | @word c cs _ _ =>
        rcases wordKind_cases (c :: cs) with h | ⟨_, h⟩ | ⟨_, h⟩ <;> rw [h] at hk <;> cases hk

theorem spellsInteger_integerText (n : Int) : SpellsInteger (integerText n) n := by
  refine ⟨numeral n.natAbs, numeral_ne_nil _, fun c => isDigit_of_mem_numeral, ?_⟩
  unfold integerText
  split
  · exact .inr ⟨rfl, by rw [digitsValue_numeral]; omega⟩
  · exact .inl ⟨rfl, by rw [digitsValue_numeral]; omega⟩

theorem SpellsInteger.readInt64? {cs : List Char} {n : Int} (h : SpellsInteger cs n) :
    readInt64? cs = toInt64? n := by
  obtain ⟨digits, hne, hd, ⟨rfl, rfl⟩ | ⟨rfl, rfl⟩⟩ := h
  · exact readInt64?_digits hne hd
  · exact readInt64?_negative hne hd

theorem SpellsInteger.not_mem_quote {cs : List Char} {n : Int} (h : SpellsInteger cs n) :
    '\'' ∉ cs := by
  obtain ⟨digits, hne, hd, ⟨rfl, -⟩ | ⟨rfl, -⟩⟩ := h
  · exact fun hm => absurd (hd _ hm) (by decide)
  · intro hm
    rcases List.mem_cons.mp hm with h | hm
    · exact absurd h (by decide)
    · exact absurd (hd _ hm) (by decide)

theorem unquoted_inQuotes (content : List Char) : unquoted (inQuotes content) = content := by
  simp [unquoted, inQuotes]

theorem inQuotes_inj {as bs : List Char} (h : inQuotes as = inQuotes bs) : as = bs := by
  rw [← unquoted_inQuotes as, h, unquoted_inQuotes]

theorem unquoted_of_not_mem {cs : List Char} (h : '\'' ∉ cs) : unquoted cs = cs := by
  have hl : ∀ inner, inner = cs →
      (if inner.getLast? = some '\'' then inner.dropLast else inner) = cs := by
    rintro _ rfl
    exact if_neg fun hl => h (List.mem_of_getLast? hl)
  refine hl _ ?_
  split
  · exact absurd List.mem_cons_self h
  · rfl

/-! ### The value of a literal token -/

namespace Token

variable {t : Token} {content : List Char}

theorem literal_of_decimal {n : Int} (hk : t.kind = .literal .decimal)
    (hs : SpellsInteger t.lexeme.toList n) (field : String) :
    t.literal field = match toInt64? n with
      | some v => .ok (.integer v)
      | none => .error (.incompatible field) := by
  rw [literal, hk, unquoted_of_not_mem hs.not_mem_quote, hs.readInt64?]
  cases toInt64? n <;> rfl

theorem literal_of_text (hk : t.kind = .literal .text) (hq : t.lexeme.toList = inQuotes content)
    (field : String) : t.literal field = .ok (.text (String.ofList content)) := by
  rw [literal, hk, hq, unquoted_inQuotes]

theorem literal_of_date (hk : t.kind = .literal .date) (hq : t.lexeme.toList = inQuotes content)
    (field : String) : t.literal field = match Date.read? content with
      | some d => .ok (.date d)
      | none => .error (.incompatible field) := by
  rw [literal, hk, hq, unquoted_inQuotes]
  cases Date.read? content <;> rfl

theorem literal_of_time (hk : t.kind = .literal .time) (hq : t.lexeme.toList = inQuotes content)
    (field : String) : t.literal field = match TimeOfDay.read? content with
      | some v => .ok (.time v)
      | none => .error (.incompatible field) := by
  rw [literal, hk, hq, unquoted_inQuotes]
  cases TimeOfDay.read? content <;> rfl

end Token

end RecordFilter
