import RecordFilter.Proofs.Grammar
import RecordFilter.Proofs.Literals
import RecordFilter.Value

/-! # Printed expressions

`Expr.display` puts every node in parentheses.  Reading it gives the same tree back
(`parse_display`) if the tree is well formed: each field is a word that is no keyword, and each
value is one that a literal token can stand for.  Conversely the parser builds no other trees
(`wellFormed_of_parse`), so that printing and parsing are inverse on exactly the well-formed
trees (`wellFormed_iff_parse_display`). -/

namespace RecordFilter

/-! ### Well-formed trees -/

/-- A word that is no keyword in any case of its ASCII letters. -/
def IsFieldName (name : String) : Prop :=
  (∃ c cs, name.toList = c :: cs ∧ (isAlphabetic c = true ∨ c = '_') ∧
    ∀ d ∈ cs, isAlphabetic d = true ∨ isNumeric d = true ∨ d = '_') ∧
  ∀ keyword ∈ ["and", "or", "eq", "ne", "gt", "lt"], sameName keyword name = false

/-- A decimal numeral of an integer that does not have 64 bits. -/
def IsOverflow (cs : List Char) : Prop :=
  ∃ n, SpellsInteger cs n ∧ (n < -2 ^ 63 ∨ 2 ^ 63 ≤ n)

/-- A quotation with the shape of a date in which no date is written. -/
def IsQuotedNoDate (cs : List Char) : Prop :=
  ∃ content, cs = inQuotes content ∧ IsDateShaped content ∧ ∀ d : Date, d.chars ≠ content

/-- A quotation with the shape of a time in which no whole second is written, leap seconds
aside. -/
def IsQuotedNoTime (cs : List Char) : Prop :=
  ∃ content, cs = inQuotes content ∧ IsTimeShaped content ∧
    ∀ t : TimeOfDay, t.nanosecond = 0 → t.chars ≠ content

/-- The values that can be written in a comparison with `field`, and the texts that can stand
there without a value. -/
def WrittenLiteral.WellFormed (field : String) : WrittenLiteral → Prop
  | .valid (.integer _) => True
  | .valid (.text s) => '\'' ∉ s.toList ∧ ¬ IsDateShaped s.toList ∧ ¬ IsTimeShaped s.toList
  | .valid (.date d) => 0 ≤ d.year ∧ d.year ≤ 9999
  | .valid (.time t) => t.nanosecond = 0
  | .invalid text error => error = .incompatible field ∧
      (IsOverflow text.toList ∨ IsQuotedNoDate text.toList ∨ IsQuotedNoTime text.toList)

/-- The trees that a text can spell. -/
def Expr.WellFormed : Expr → Prop
  | .binary _ left right => left.WellFormed ∧ right.WellFormed
  | .comparison field _ value => IsFieldName field ∧ value.WellFormed field

/-! ### Fields -/

theorem wordKind_eq_identifier_iff {w : List Char} :
    wordKind w = .identifier ↔ ∀ p ∈ keywords, p.1 ≠ w.map Char.toLower := by
  have hf : wordKind w = .identifier ↔ keywords.find? (·.1 == w.map Char.toLower) = none := by
    unfold wordKind
    split
    · next kind h =>
        have hm := List.mem_of_find?_eq_some h
        simp only [keywords, List.mem_cons, Prod.mk.injEq, List.not_mem_nil, or_false] at hm
        rw [h]
        rcases hm with ⟨_, rfl⟩ | ⟨_, rfl⟩ | ⟨_, rfl⟩ | ⟨_, rfl⟩ | ⟨_, rfl⟩ | ⟨_, rfl⟩ <;> simp
    · next h => simp only [h]
  rw [hf, List.find?_eq_none]
  simp only [beq_iff_eq, ne_eq]

theorem not_keyword_iff {name : String} :
    (∀ p ∈ keywords, p.1 ≠ name.toList.map Char.toLower) ↔
      ∀ keyword ∈ ["and", "or", "eq", "ne", "gt", "lt"], sameName keyword name = false := by
  simp [keywords, sameName]

/-- The names of fields are the words that are no keywords. -/
theorem lexeme_identifier_iff {name : String} :
    Lexeme .identifier name.toList ↔ IsFieldName name := by
  unfold IsFieldName
  rw [← not_keyword_iff, ← wordKind_eq_identifier_iff]
  constructor
  · intro h
    generalize hk : TokenKind.identifier = k at h
    generalize hn : name.toList = cs at h
    cases h with
    | leftParen | rightParen | quoted | decimal | negative => cases hk
    | @word c cs hc hcs =>
        refine ⟨⟨c, cs, rfl, by simpa [beginsWord] using hc, fun d hd => ?_⟩, rfl⟩
        simpa [continuesWord, or_assoc] using hcs d hd
  · rintro ⟨⟨c, cs, hn, hc, hcs⟩, hk⟩
    rw [hn] at hk ⊢
    rw [← hk]
    refine .word (by simpa [beginsWord] using hc) fun d hd => ?_
    simpa [continuesWord, or_assoc] using hcs d hd

theorem isFieldName_iff {name : String} :
    IsFieldName name ↔ name.toList.head?.any beginsWord = true ∧
      name.toList.tail.all continuesWord = true ∧ wordKind name.toList = .identifier := by
  rw [wordKind_eq_identifier_iff, not_keyword_iff, ← and_assoc]
  refine and_congr_left fun _ => ?_
  constructor
  · rintro ⟨c, cs, hn, h⟩
    rw [hn]
    simpa [beginsWord, continuesWord, or_assoc] using h
  · intro h
    cases hn : name.toList with
    | nil => simp [hn] at h
    | cons c cs =>
        rw [hn] at h
        exact ⟨c, cs, rfl, by simpa [beginsWord, continuesWord, or_assoc] using h⟩

instance : DecidablePred IsFieldName :=
  fun _ => decidable_of_iff _ isFieldName_iff.symm

/-! ### Values -/

section values
variable {t : Token} {field : String}

theorem wellFormed_of_decimal {n : Int} (hk : t.kind = .literal .decimal)
    (hs : SpellsInteger t.lexeme.toList n) : (WrittenLiteral.ofToken t field).WellFormed field := by
  rw [WrittenLiteral.ofToken, Token.literal_of_decimal hk hs]
  cases hn : toInt64? n with
  | some v => trivial
  | none => exact ⟨rfl, .inl ⟨n, hs, toInt64?_eq_none_iff.mp hn⟩⟩

theorem wellFormed_of_quoted {content : List Char} (hq : '\'' ∉ content)
    (hk : t.kind = .literal (quotedShape content)) (hs : t.lexeme.toList = inQuotes content) :
    (WrittenLiteral.ofToken t field).WellFormed field := by
  by_cases hd : IsDateShaped content
  · rw [quotedShape_of_date hd] at hk
    rw [WrittenLiteral.ofToken, Token.literal_of_date hk hs]
    cases hr : Date.read? content with
    | some d =>
        rw [Date.read?_eq_some_iff hd] at hr
        rw [← hr] at hd
        obtain ⟨_, _, _, hg⟩ := hd
        exact Date.year_of_grouped hg
    | none =>
        refine ⟨rfl, .inr (.inl ⟨content, hs, hd, fun d hc => ?_⟩)⟩
        rw [← Date.read?_eq_some_iff hd, hr] at hc
        cases hc
  · by_cases ht : IsTimeShaped content
    · rw [quotedShape_of_time ht] at hk
      rw [WrittenLiteral.ofToken, Token.literal_of_time hk hs]
      cases hr : TimeOfDay.read? content with
      | some v => exact ((TimeOfDay.read?_eq_some_iff ht).mp hr).2
      | none =>
          refine ⟨rfl, .inr (.inr ⟨content, hs, ht, fun v hn hc => ?_⟩)⟩
          have := (TimeOfDay.read?_eq_some_iff ht).mpr ⟨hc, hn⟩
          rw [hr] at this
          cases this
    · rw [quotedShape_of_text hd ht] at hk
      rw [WrittenLiteral.ofToken, Token.literal_of_text hk hs]
      simp only [WrittenLiteral.WellFormed, String.toList_ofList]
      exact ⟨hq, hd, ht⟩

theorem wellFormed_ofToken {shape : LiteralShape} (hk : t.kind = .literal shape)
    (hl : Lexeme (.literal shape) t.lexeme.toList) :
    (WrittenLiteral.ofToken t field).WellFormed field := by
  rcases hl.literal_cases with ⟨rfl, n, hs⟩ | ⟨content, hq, rfl, hs⟩
  · exact wellFormed_of_decimal hk hs
  · exact wellFormed_of_quoted hq hk hs

theorem wellFormed_text {s : String} (hq : '\'' ∉ s.toList) (hs : quotedShape s.toList = .text) :
    (WrittenLiteral.valid (.text s)).WellFormed field := by
  refine ⟨hq, fun h => ?_, fun h => ?_⟩
  · rw [quotedShape_of_date h] at hs
    cases hs
  · rw [quotedShape_of_time h] at hs
    cases hs

end values

/-- `Reprints value field shape`: the printed form of the value is a literal token of the shape,
which stands for the value again. -/
def Reprints (value : WrittenLiteral) (field : String) (shape : LiteralShape) : Prop :=
  Lexeme (.literal shape) value.display.toList ∧ ∀ t : Token, t.kind = .literal shape →
    t.lexeme = value.display → WrittenLiteral.ofToken t field = value

theorem reprints_integer (v : Int64) (field : String) :
    Reprints (.valid (.integer v)) field .decimal := by
  have hs := spellsInteger_integerText v.toInt
  have he : (WrittenLiteral.valid (.integer v)).display.toList = integerText v.toInt :=
    String.toList_ofList
  refine ⟨lexeme_decimal_iff.mpr ⟨_, by rwa [he]⟩, fun t hk ht => ?_⟩
  have hs' : SpellsInteger t.lexeme.toList v.toInt := by rwa [ht, he]
  rw [WrittenLiteral.ofToken, Token.literal_of_decimal hk hs', toInt64?_toInt]

theorem display_quoted {l : Literal} (hl : ∀ v, l ≠ .integer v) :
    (WrittenLiteral.valid l).display.toList = inQuotes l.asText.toList := by
  cases l with
  | integer v => exact absurd rfl (hl v)
  | _ => simp [WrittenLiteral.display, Literal.display, inQuotes]

/-- A quotation is a token of the shape of its content. -/
theorem reprints_quoted {value : WrittenLiteral} {field : String} {content : List Char}
    {shape : LiteralShape} (hq : '\'' ∉ content) (hs : quotedShape content = shape)
    (he : value.display.toList = inQuotes content)
    (hv : ∀ t : Token, t.kind = .literal shape → t.lexeme.toList = inQuotes content →
      WrittenLiteral.ofToken t field = value) : Reprints value field shape := by
  refine ⟨?_, fun t hk hl => hv t hk (by rw [hl, he])⟩
  rw [he, ← hs]
  exact .quoted hq

theorem reprints_text {s : String} (hq : '\'' ∉ s.toList) (hd : ¬ IsDateShaped s.toList)
    (ht : ¬ IsTimeShaped s.toList) (field : String) :
    Reprints (.valid (.text s)) field .text := by
  refine reprints_quoted hq (quotedShape_of_text hd ht) (display_quoted (by simp)) ?_
  intro t hk hs
  rw [WrittenLiteral.ofToken, Token.literal_of_text hk hs]
  simp

theorem reprints_date {d : Date} (h : 0 ≤ d.year ∧ d.year ≤ 9999) (field : String) :
    Reprints (.valid (.date d)) field .date := by
  have hg := Date.chars_grouped h
  have hd : IsDateShaped d.chars := ⟨_, _, _, hg⟩
  have he : (WrittenLiteral.valid (.date d)).display.toList = inQuotes d.chars := by
    rw [display_quoted (by simp), Literal.asText, Date.text, String.toList_ofList]
  refine reprints_quoted (hg.not_mem_quote (by decide)) (quotedShape_of_date hd) he ?_
  intro t hk hs
  rw [WrittenLiteral.ofToken, Token.literal_of_date hk hs, (Date.read?_eq_some_iff hd).mpr rfl]

theorem reprints_time {v : TimeOfDay} (h : v.nanosecond = 0) (field : String) :
    Reprints (.valid (.time v)) field .time := by
  have hg := v.chars_grouped
  have ht : IsTimeShaped v.chars := ⟨_, _, _, hg⟩
  have he : (WrittenLiteral.valid (.time v)).display.toList = inQuotes v.chars := by
    rw [display_quoted (by simp), Literal.asText, TimeOfDay.text, String.toList_ofList]
  refine reprints_quoted (hg.not_mem_quote (by decide)) (quotedShape_of_time ht) he ?_
  intro t hk hs
  rw [WrittenLiteral.ofToken, Token.literal_of_time hk hs,
    (TimeOfDay.read?_eq_some_iff ht).mpr ⟨rfl, h⟩]

theorem reprints_overflow {text : String} (h : IsOverflow text.toList) (field : String) :
    Reprints (.invalid text (.incompatible field)) field .decimal := by
  obtain ⟨n, hs, hn⟩ := h
  refine ⟨lexeme_decimal_iff.mpr ⟨n, hs⟩, fun t hk ht => ?_⟩
  have hs' : SpellsInteger t.lexeme.toList n := by rwa [ht]
  rw [WrittenLiteral.ofToken, Token.literal_of_decimal hk hs', toInt64?_eq_none_iff.mpr hn]
  exact congrArg (WrittenLiteral.invalid · _) ht

theorem ofToken_of_error {t : Token} {field text : String} (ht : t.lexeme = text)
    (h : t.literal field = .error (.incompatible field)) :
    WrittenLiteral.ofToken t field = .invalid text (.incompatible field) := by
  rw [WrittenLiteral.ofToken, h, ht]

theorem reprints_quotedNoDate {text : String} (h : IsQuotedNoDate text.toList)
    (field : String) : Reprints (.invalid text (.incompatible field)) field .date := by
  obtain ⟨content, hs, hd, hn⟩ := h
  obtain ⟨_, _, _, hg⟩ := id hd
  have hr : Date.read? content = none := Option.eq_none_iff_forall_ne_some.mpr fun d hr =>
    hn d ((Date.read?_eq_some_iff hd).mp hr)
  refine reprints_quoted (hg.not_mem_quote (by decide)) (quotedShape_of_date hd) hs ?_
  intro t hk ht
  refine ofToken_of_error (String.toList_inj.mp (ht.trans hs.symm)) ?_
  rw [Token.literal_of_date hk ht, hr]

theorem reprints_quotedNoTime {text : String} (h : IsQuotedNoTime text.toList)
    (field : String) : Reprints (.invalid text (.incompatible field)) field .time := by
  obtain ⟨content, hs, hv, hn⟩ := h
  obtain ⟨_, _, _, hg⟩ := id hv
  have hr : TimeOfDay.read? content = none :=
    Option.eq_none_iff_forall_ne_some.mpr fun v hr =>
      hn v ((TimeOfDay.read?_eq_some_iff hv).mp hr).2 ((TimeOfDay.read?_eq_some_iff hv).mp hr).1
  refine reprints_quoted (hg.not_mem_quote (by decide)) (quotedShape_of_time hv) hs ?_
  intro t hk ht
  refine ofToken_of_error (String.toList_inj.mp (ht.trans hs.symm)) ?_
  rw [Token.literal_of_time hk ht, hr]

/-- Every well-formed value is printed as a literal token that stands for it. -/
theorem WrittenLiteral.WellFormed.reprints {value : WrittenLiteral} {field : String}
    (h : value.WellFormed field) : ∃ shape, Reprints value field shape := by
  cases value with
  | valid l =>
      cases l with
      | integer v => exact ⟨_, reprints_integer v field⟩
      | text s => exact ⟨_, reprints_text h.1 h.2.1 h.2.2 field⟩
      | date d => exact ⟨_, reprints_date h field⟩
      | time v => exact ⟨_, reprints_time h field⟩
  | invalid text error =>
      obtain ⟨rfl, h | h | h⟩ := h
      · exact ⟨_, reprints_overflow h field⟩
      · exact ⟨_, reprints_quotedNoDate h field⟩
      · exact ⟨_, reprints_quotedNoTime h field⟩

/-! ### Reading a printed tree -/

theorem Cursor.Reads.lexeme {blanks lexeme after : List Char} {kind : TokenKind}
    (hb : AllBlank blanks) (hl : Lexeme kind lexeme) (hs : kind.Stops after) (offset : Nat) :
    ∃ t offset', t.kind = kind ∧ t.lexeme = String.ofList lexeme ∧
      Reads ⟨blanks ++ (lexeme ++ after), offset⟩ [t] ⟨after, offset'⟩ :=
  ⟨_, _, rfl, rfl, .cons (next_lexeme offset hb hl hs) hl.ne_ending .nil⟩

theorem allBlank_nil : AllBlank [] := by
  simp [AllBlank]

theorem allBlank_space : AllBlank [' '] := by
  intro c hc
  rw [List.mem_singleton.mp hc]
  decide

theorem TokenKind.stops_cons {k : TokenKind} {c : Char} {after : List Char}
    (hd : c.isDigit = false) (hw : continuesWord c = false) : k.Stops (c :: after) := by
  intro d hd'
  rw [← Option.some.inj hd']
  cases k with
  | literal shape =>
      cases shape with
      | decimal => exact hd
      | _ => rfl
  | identifier | connective | comparator => exact hw
  | _ => rfl

theorem stops_space {k : TokenKind} (after : List Char) : k.Stops (' ' :: after) :=
  TokenKind.stops_cons (by decide) (continuesWord_of_isBlank (by decide))

theorem stops_rightParen {k : TokenKind} (after : List Char) : k.Stops (')' :: after) :=
  TokenKind.stops_cons (by decide) (by decide +kernel)

theorem Connective.lexeme_label (op : Connective) :
    Lexeme (.connective op) op.label.toList := by
  cases op with
  | and => exact Lexeme.word_of_all 'A' ['N', 'D'] (by decide) (by decide)
  | or => exact Lexeme.word_of_all 'O' ['R'] (by decide) (by decide)

theorem Comparator.lexeme_keyword (op : Comparator) :
    Lexeme (.comparator op) op.keyword.toList := by
  cases op with
  | eq => exact Lexeme.word_of_all 'e' ['q'] (by decide) (by decide)
  | ne => exact Lexeme.word_of_all 'n' ['e'] (by decide) (by decide)
  | gt => exact Lexeme.word_of_all 'g' ['t'] (by decide) (by decide)
  | lt => exact Lexeme.word_of_all 'l' ['t'] (by decide) (by decide)

theorem Derives.binary {ts us : List Token} {c : Token} {op : Connective} {l r : Expr}
    (hl : Derives .atom ts l) (hc : c.kind = .connective op) (hr : Derives .atom us r) :
    Derives .expression (ts ++ c :: us) (.binary op l r) := by
  cases op with
  | and => exact .ofConjunction (.and (.ofAtom hl) hc hr)
  | or => exact .or hl.ofAtom' hc (.ofAtom hr)

/-- The cursor walks over a printed tree, whatever follows it, and the tokens that it yields are
an atom with this tree.  The induction is on the tree: a node contributes its parentheses and its
connective, a leaf its three tokens. -/
theorem Expr.WellFormed.reads {e : Expr} (h : e.WellFormed) {blanks : List Char}
    (hb : AllBlank blanks) (after : List Char) (offset : Nat) : ∃ ts offset',
      Cursor.Reads ⟨blanks ++ (e.display.toList ++ after), offset⟩ ts ⟨after, offset'⟩ ∧
        Derives .atom ts e := by
  induction e generalizing blanks after offset with
  | binary op l r ihl ihr =>
      let rest₃ := ')' :: after
      let rest₂ := ' ' :: (r.display.toList ++ rest₃)
      let rest₁ := l.display.toList ++ ' ' :: (op.label.toList ++ rest₂)
      have h₀ : TokenKind.leftParen.Stops rest₁ := fun _ _ => rfl
      have h₀' : TokenKind.rightParen.Stops after := fun _ _ => rfl
      obtain ⟨p, o₁, hp, -, h₁⟩ := Cursor.Reads.lexeme hb .leftParen h₀ offset
      obtain ⟨ts, o₂, h₂, hl⟩ := ihl h.1 allBlank_nil (' ' :: (op.label.toList ++ rest₂)) o₁
      obtain ⟨c, o₃, hc, -, h₃⟩ := Cursor.Reads.lexeme allBlank_space op.lexeme_label
        (stops_space (r.display.toList ++ rest₃)) o₂
      obtain ⟨us, o₄, h₄, hr⟩ := ihr h.2 allBlank_space rest₃ o₃
      obtain ⟨q, o₅, hq, -, h₅⟩ := Cursor.Reads.lexeme allBlank_nil .rightParen h₀' o₄
      refine ⟨_, o₅, ?_, .group hp (hl.binary hc hr) hq⟩
      have h₆ := h₁.trans (h₂.trans (h₃.trans (h₄.trans h₅)))
      simpa [display, rest₁, rest₂, rest₃] using h₆
  | comparison field op value =>
      obtain ⟨hf, hv⟩ := h
      obtain ⟨shape, hl, hr⟩ := hv.reprints
      let rest₃ := ')' :: after
      let rest₂ := ' ' :: (value.display.toList ++ rest₃)
      let rest₁ := ' ' :: (op.keyword.toList ++ rest₂)
      have h₀ : TokenKind.leftParen.Stops (field.toList ++ rest₁) := fun _ _ => rfl
      have h₀' : TokenKind.rightParen.Stops after := fun _ _ => rfl
      obtain ⟨p, o₁, hp, -, h₁⟩ := Cursor.Reads.lexeme hb .leftParen h₀ offset
      obtain ⟨f, o₂, hfk, hfl, h₂⟩ := Cursor.Reads.lexeme allBlank_nil
        (lexeme_identifier_iff.mpr hf) (stops_space (op.keyword.toList ++ rest₂)) o₁
      obtain ⟨c, o₃, hc, -, h₃⟩ := Cursor.Reads.lexeme allBlank_space op.lexeme_keyword
        (stops_space (value.display.toList ++ rest₃)) o₂
      obtain ⟨v, o₄, hvk, hvl, h₄⟩ := Cursor.Reads.lexeme allBlank_space hl
        (stops_rightParen after) o₃
      obtain ⟨q, o₅, hq, -, h₅⟩ := Cursor.Reads.lexeme allBlank_nil .rightParen h₀' o₄
      rw [String.ofList_toList] at hfl hvl
      have hd : Derives .atom [f, c, v] (.comparison field op value) := by
        rw [← hfl]
        exact .comparison hfk hc hvk (resolves_iff.mpr (by rw [hfl, hr v hvk hvl]))
      refine ⟨_, o₅, ?_, .group hp hd.ofAtom' hq⟩
      have h₆ := h₁.trans (h₂.trans (h₃.trans (h₄.trans h₅)))
      simpa [display, rest₁, rest₂, rest₃] using h₆

/-- A well-formed tree is read from its printed form. -/
theorem parse_display {e : Expr} (h : e.WellFormed) : Expr.parse e.display = .ok e := by
  obtain ⟨ts, o, hr, hd⟩ := h.reads allBlank_nil [] 0
  rw [List.nil_append, List.append_nil] at hr
  have ht : tokenize e.display = .ok (ts ++ [.ending o]) :=
    Cursor.tokens_eq_ok_iff.mpr ⟨ts, _, _, _, hr, Cursor.next_blanks o allBlank_nil, rfl, rfl⟩
  exact (parse_eq_ok_iff_of_tokenize ht).mpr hd.ofAtom'

/-! ### What the parser can return -/

/-- A tree derived from lexemes is well formed. -/
theorem Derives.wellFormed {n : Phrase} {ts : List Token} {e : Expr} (h : Derives n ts e)
    (hl : ∀ t ∈ ts, Lexeme t.kind t.lexeme.toList) : e.WellFormed := by
  induction h with
  | @comparison f o l op shape value hf _ hk hv =>
      have h₁ := hl f (by simp)
      have h₂ := hl l (by simp)
      rw [hf] at h₁
      rw [hk] at h₂
      rw [resolves_iff.mp hv]
      exact ⟨lexeme_identifier_iff.mp h₁, wellFormed_ofToken hk h₂⟩
  | group _ _ _ ih => exact ih fun t ht => hl t (by simp [ht])
  | ofAtom _ ih | ofConjunction _ ih => exact ih hl
  | and _ _ _ ihl ihr | or _ _ _ ihl ihr =>
      exact ⟨ihl fun t ht => hl t (by simp [ht]), ihr fun t ht => hl t (by simp [ht])⟩

theorem wellFormed_of_parse {input : String} {e : Expr} (h : Expr.parse input = .ok e) :
    e.WellFormed := by
  obtain ⟨ts, t, ht, hd⟩ := exists_derives_of_parse h
  obtain ⟨-, s, hr⟩ := tokenize_eq_ok ht
  exact hd.wellFormed hr.lexemes

/-- **Printing and parsing are inverse on exactly the well-formed trees**: these are the trees
that some text spells, and the trees that their own printed form spells. -/
theorem wellFormed_iff_parse_display (e : Expr) :
    ((∃ input, Expr.parse input = .ok e) ↔ e.WellFormed) ∧
      (e.WellFormed ↔ Expr.parse e.display = .ok e) :=
  ⟨⟨fun ⟨_, h⟩ => wellFormed_of_parse h, fun h => ⟨_, parse_display h⟩⟩,
    parse_display, wellFormed_of_parse⟩

end RecordFilter
