import RecordFilter.Proofs.PrintedExpr

/-! # Tokens tile the text

What the tokens of a text are, said without reading it from left to right.  `Tiles start cs ts`
looks at the bytes of the text `cs`, whose first character has the byte offset `start`: each token
of `ts` is the slice that stands at its position, the slices are not empty, follow each other and
have the texts of their kinds (`TokenKind.HasText`), what lies outside of them is white space, and
no slice could be longer.

`Laid start cs ts` is the invariant that connects this with the cursor, which walks over white
space and a lexeme again and again (`Cursor.tokens_eq_ok_iff_laid`).  Both are the same relation
(`laid_iff_tiles`): from `Laid` to `Tiles` the tokens of the rest keep their places when text is
put in front (`StandsAt.append_left`), and back again they can stand nowhere but in the rest
(`StandsAt.of_le`).  Hence the tokens of a text are its only tiling
(`tokenize_eq_ok_iff_isTiling`). -/

namespace RecordFilter

/-! ### The texts of a kind -/

/-- A word: a letter or an underscore, and then letters, numbers and underscores. -/
def IsWord (cs : List Char) : Prop :=
  ∃ c rest, cs = c :: rest ∧ (isAlphabetic c = true ∨ c = '_') ∧
    ∀ d ∈ rest, isAlphabetic d = true ∨ isNumeric d = true ∨ d = '_'

/-- The contents of the quoted literals of a shape. -/
def LiteralShape.HasContent : LiteralShape → List Char → Prop
  | .decimal, _ => False
  | .date, cs => IsDateShaped cs
  | .time, cs => IsTimeShaped cs
  | .text, cs => ¬ IsDateShaped cs ∧ ¬ IsTimeShaped cs

/-- The texts of the tokens of a kind. -/
def TokenKind.HasText : TokenKind → String → Prop
  | .leftParen, s => s = "("
  | .rightParen, s => s = ")"
  | .literal .decimal, s => ∃ n, SpellsInteger s.toList n
  | .literal shape, s =>
      ∃ content, s.toList = inQuotes content ∧ '\'' ∉ content ∧ shape.HasContent content
  | .connective op, s => IsWord s.toList ∧ sameName s op.label = true
  | .comparator op, s => IsWord s.toList ∧ sameName s op.keyword = true
  | .identifier, s => IsFieldName s
  | .endOfInput, _ => False

theorem lexeme_word_iff {k : TokenKind} {cs : List Char}
    (hk : k = .identifier ∨ (∃ op, k = .connective op) ∨ ∃ op, k = .comparator op) :
    Lexeme k cs ↔ IsWord cs ∧ wordKind cs = k := by
  constructor
  · intro h
    cases h with
    | leftParen | rightParen | quoted | decimal | negative => simp at hk
    | @word c cs hc hcs =>
        refine ⟨⟨c, cs, rfl, by simpa [beginsWord] using hc, fun d hd => ?_⟩, rfl⟩
        simpa [continuesWord, or_assoc] using hcs d hd
  · rintro ⟨⟨c, cs, rfl, hc, hcs⟩, rfl⟩
    refine .word (by simpa [beginsWord] using hc) fun d hd => ?_
    simpa [continuesWord, or_assoc] using hcs d hd

/-- A word that is no field name is one of the keywords, but for the case of its letters. -/
theorem wordKind_eq_iff_mem {w : List Char} {k : TokenKind} (hk : k ≠ .identifier) :
    wordKind w = k ↔ (w.map Char.toLower, k) ∈ keywords := by
  constructor
  · intro h
    unfold wordKind at h
    split at h
    · next x kind hf =>
        have hm := List.mem_of_find?_eq_some hf
        have he := List.find?_some hf
        rw [beq_iff_eq] at he
        subst he
        subst h
        exact hm
    · exact absurd h.symm hk
  · intro h
    simp only [keywords, List.mem_cons, Prod.mk.injEq, List.not_mem_nil, or_false] at h
    rcases h with ⟨hw, rfl⟩ | ⟨hw, rfl⟩ | ⟨hw, rfl⟩ | ⟨hw, rfl⟩ | ⟨hw, rfl⟩ | ⟨hw, rfl⟩ <;>
      simp [wordKind, keywords, hw]

theorem wordKind_connective_iff {s : String} {op : Connective} :
    wordKind s.toList = .connective op ↔ sameName s op.label = true := by
  rw [wordKind_eq_iff_mem (by simp), sameName, beq_iff_eq]
  cases op <;> simp [keywords, Connective.label]

theorem wordKind_comparator_iff {s : String} {op : Comparator} :
    wordKind s.toList = .comparator op ↔ sameName s op.keyword = true := by
  rw [wordKind_eq_iff_mem (by simp), sameName, beq_iff_eq]
  cases op <;> simp [keywords, Comparator.keyword]

theorem quotedShape_eq_iff {cs : List Char} {shape : LiteralShape} :
    quotedShape cs = shape ↔ shape.HasContent cs := by
  constructor
  · rintro rfl
    by_cases hd : IsDateShaped cs
    · rw [quotedShape_of_date hd]
      exact hd
    · by_cases ht : IsTimeShaped cs
      · rw [quotedShape_of_time ht]
        exact ht
      · rw [quotedShape_of_text hd ht]
        exact ⟨hd, ht⟩
  · intro h
    cases shape with
    | decimal => exact h.elim
    | date => exact quotedShape_of_date h
    | time => exact quotedShape_of_time h
    | text => exact quotedShape_of_text h.1 h.2

theorem lexeme_quoted_iff {shape : LiteralShape} (hs : shape ≠ .decimal) {cs : List Char} :
    Lexeme (.literal shape) cs ↔
      ∃ content, cs = inQuotes content ∧ '\'' ∉ content ∧ shape.HasContent content := by
  constructor
  · intro h
    rcases h.literal_cases with ⟨rfl, -⟩ | ⟨content, hq, he, hc⟩
    · exact absurd rfl hs
    · exact ⟨content, hc, hq, quotedShape_eq_iff.mp he.symm⟩
  · rintro ⟨content, rfl, hq, hc⟩
    rw [← quotedShape_eq_iff.mpr hc]
    exact .quoted hq

theorem Lexeme.paren_cases {k : TokenKind} {cs : List Char} (h : Lexeme k cs) :
    k = .leftParen ∧ cs = ['('] ∨ k = .rightParen ∧ cs = [')'] ∨
      k ≠ .leftParen ∧ k ≠ .rightParen := by
  cases h with
  | leftParen => exact .inl ⟨rfl, rfl⟩
  | rightParen => exact .inr (.inl ⟨rfl, rfl⟩)
  | quoted | decimal | negative => simp
  | @word c cs _ _ =>
      rcases wordKind_cases (c :: cs) with h | ⟨_, h⟩ | ⟨_, h⟩ <;> rw [h] <;> simp

theorem lexeme_iff_hasText {k : TokenKind} {s : String} : Lexeme k s.toList ↔ k.HasText s := by
  cases k with
  | leftParen =>
      constructor
      · intro h
        rcases h.paren_cases with ⟨-, h⟩ | ⟨h, -⟩ | ⟨h, -⟩
        · exact String.toList_inj.mp h
        · cases h
        · exact absurd rfl h
      · rintro rfl
        exact .leftParen
  | rightParen =>
      constructor
      · intro h
        rcases h.paren_cases with ⟨h, -⟩ | ⟨-, h⟩ | ⟨-, h⟩
        · cases h
        · exact String.toList_inj.mp h
        · exact absurd rfl h
      · rintro rfl
        exact .rightParen
  | identifier => exact lexeme_identifier_iff
  | connective op =>
      rw [lexeme_word_iff (by simp), wordKind_connective_iff]
      rfl
  | comparator op =>
      rw [lexeme_word_iff (by simp), wordKind_comparator_iff]
      rfl
  | endOfInput => exact ⟨fun h => absurd rfl h.ne_ending, False.elim⟩
  | literal shape =>
      cases shape with
      | decimal => exact lexeme_decimal_iff
      | text | date | time => exact lexeme_quoted_iff (by simp)

/-! ### Slices -/

/-- `StandsAt start cs p w`: the text `w` is a slice of the text `cs`, which begins at the byte
`start`, and the slice begins at the byte `p`. -/
def StandsAt (start : Nat) (cs : List Char) (p : Nat) (w : List Char) : Prop :=
  ∃ before after, cs = before ++ (w ++ after) ∧ p = start + byteLength before

section slices
variable {start p : Nat} {cs as bs w : List Char}

theorem StandsAt.bounds (h : StandsAt start cs p w) :
    start ≤ p ∧ p + byteLength w ≤ start + byteLength cs := by
  obtain ⟨before, after, rfl, rfl⟩ := h
  simp only [byteLength_append]
  omega

theorem StandsAt.append_left (h : StandsAt (start + byteLength as) bs p w) :
    StandsAt start (as ++ bs) p w := by
  obtain ⟨before, after, rfl, rfl⟩ := h
  refine ⟨as ++ before, after, by simp, ?_⟩
  rw [byteLength_append, Nat.add_assoc]

theorem StandsAt.of_le (h : StandsAt start (as ++ bs) p w) (hp : start + byteLength as ≤ p) :
    StandsAt (start + byteLength as) bs p w := by
  obtain ⟨before, after, he, rfl⟩ := h
  rcases List.append_eq_append_iff.mp he with ⟨middle, rfl, hb⟩ | ⟨middle, rfl, hb⟩
  · refine ⟨middle, after, hb, ?_⟩
    rw [byteLength_append, Nat.add_assoc]
  · have hm : byteLength middle = 0 := by
      rw [byteLength_append] at hp
      omega
    rw [eq_nil_of_byteLength_eq_zero hm] at hb ⊢
    exact ⟨[], after, hb.symm, by simp⟩

theorem standsAt_behind_iff {ws : List Char}
    (hp : start + byteLength as + byteLength bs ≤ p) :
    StandsAt start (as ++ (bs ++ ws)) p w ↔
      StandsAt (start + byteLength as + byteLength bs) ws p w :=
  ⟨fun h => (h.of_le (by omega)).of_le (by omega), fun h => h.append_left.append_left⟩

theorem StandsAt.mem_of_lt {c : Char} (h : StandsAt start (as ++ bs) p [c])
    (hp : p < start + byteLength as) : c ∈ as := by
  obtain ⟨before, after, he, rfl⟩ := h
  rcases List.append_eq_append_iff.mp he with ⟨middle, rfl, -⟩ | ⟨middle, rfl, hb⟩
  · rw [byteLength_append] at hp
    omega
  · cases middle with
    | nil =>
        rw [List.append_nil] at hp
        omega
    | cons d middle =>
        obtain ⟨rfl, -⟩ := List.cons.inj hb
        simp

theorem standsAt_start_iff {c : Char} : StandsAt start cs start [c] ↔ c ∈ cs.head? := by
  constructor
  · rintro ⟨before, after, rfl, hp⟩
    have hb : byteLength before = 0 := by omega
    rw [eq_nil_of_byteLength_eq_zero hb]
    rfl
  · intro h
    cases cs with
    | nil => cases h
    | cons d cs =>
        cases h
        exact ⟨[], cs, rfl, rfl⟩

end slices

/-! ### Tilings -/

/-- The byte behind a token. -/
def Token.stop (t : Token) : Nat :=
  t.position + byteLength t.lexeme.toList

/-- `Tiles start cs ts`: the tokens `ts` are slices of the text `cs`, which begins at the byte
`start`, and each has a text of its kind.  They follow each other, leave out nothing but white
space, and none could be longer. -/
structure Tiles (start : Nat) (cs : List Char) (ts : List Token) : Prop where
  slice : ∀ t ∈ ts, StandsAt start cs t.position t.lexeme.toList
  nonempty : ∀ t ∈ ts, t.lexeme ≠ ""
  ordered : ts.Pairwise fun t u => t.stop ≤ u.position
  blank : ∀ p c, StandsAt start cs p [c] → (∀ t ∈ ts, p < t.position ∨ t.stop ≤ p) →
    isBlank c = true
  hasText : ∀ t ∈ ts, t.kind.HasText t.lexeme
  longest : ∀ t ∈ ts, ∀ c, StandsAt start cs t.stop [c] → t.kind.continuedBy c = false

/-- `Laid start cs ts`: the text `cs`, which begins at the byte `start`, consists of white space
and the lexemes of the tokens `ts` in turn, each of which goes as far as it can. -/
inductive Laid : Nat → List Char → List Token → Prop
  | blanks {start : Nat} {cs : List Char} (hb : AllBlank cs) : Laid start cs []
  | token {start : Nat} {blanks lexeme after : List Char} {kind : TokenKind} {ts : List Token}
      (hb : AllBlank blanks) (hl : Lexeme kind lexeme) (hs : kind.Stops after)
      (hr : Laid (start + byteLength blanks + byteLength lexeme) after ts) :
      Laid start (blanks ++ (lexeme ++ after))
        (⟨kind, String.ofList lexeme, start + byteLength blanks⟩ :: ts)

theorem tiles_of_allBlank {start : Nat} {cs : List Char} (hb : AllBlank cs) :
    Tiles start cs [] where
  slice := by simp
  nonempty := by simp
  ordered := .nil
  blank := by
    rintro p c ⟨before, after, rfl, -⟩ -
    exact hb c (by simp)
  hasText := by simp
  longest := by simp

/-- White space and a lexeme that goes no further may stand in front of a tiling. -/
theorem Tiles.cons {start : Nat} {blanks lexeme after : List Char} {kind : TokenKind}
    {ts : List Token} (hb : AllBlank blanks) (hl : Lexeme kind lexeme) (hs : kind.Stops after)
    (h : Tiles (start + byteLength blanks + byteLength lexeme) after ts) :
    Tiles start (blanks ++ (lexeme ++ after))
      (⟨kind, String.ofList lexeme, start + byteLength blanks⟩ :: ts) := by
  let t : Token := ⟨kind, String.ofList lexeme, start + byteLength blanks⟩
  have ht : t.stop = start + byteLength blanks + byteLength lexeme := by
    rw [Token.stop, String.toList_ofList]
  have hw : t.lexeme.toList = lexeme := String.toList_ofList
  have hrest : ∀ {p w}, StandsAt start (blanks ++ (lexeme ++ after)) p w → t.stop ≤ p →
      StandsAt (start + byteLength blanks + byteLength lexeme) after p w := by
    intro p w hp hle
    rw [ht] at hle
    exact (standsAt_behind_iff hle).mp hp
  constructor
  case slice =>
    intro u hu
    rcases List.mem_cons.mp hu with rfl | hu
    · exact ⟨blanks, after, by rw [hw], rfl⟩
    · exact (h.slice u hu).append_left.append_left
  case nonempty =>
    intro u hu
    rcases List.mem_cons.mp hu with rfl | hu
    · obtain ⟨c, cs, rfl, -⟩ := hl.exists_cons
      intro he
      rw [he] at hw
      cases hw
    · exact h.nonempty u hu
  case ordered =>
    refine .cons (fun u hu => ?_) h.ordered
    change t.stop ≤ u.position
    rw [ht]
    exact (h.slice u hu).bounds.1
  case blank =>
    intro p c hc hout
    rcases hout t List.mem_cons_self with hp | hp
    · exact hb c (hc.mem_of_lt hp)
    · exact h.blank p c (hrest hc hp) fun u hu => hout u (List.mem_cons_of_mem _ hu)
  case hasText =>
    intro u hu
    rcases List.mem_cons.mp hu with rfl | hu
    · rw [← lexeme_iff_hasText, hw]
      exact hl
    · exact h.hasText u hu
  case longest =>
    intro u hu c hc
    rcases List.mem_cons.mp hu with rfl | hu
    · have hc' := hrest hc le_rfl
      rw [ht] at hc'
      exact hs c (standsAt_start_iff.mp hc')
    · have hle := (h.slice u hu).bounds.1
      refine h.longest u hu c (hrest hc ?_)
      rw [ht]
      exact Nat.le_trans hle (Nat.le_add_right _ _)

theorem Laid.tiles {start : Nat} {cs : List Char} {ts : List Token} (h : Laid start cs ts) :
    Tiles start cs ts := by
  induction h with
  | blanks hb => exact tiles_of_allBlank hb
  | token hb hl hs _ ih => exact ih.cons hb hl hs

/-- What stands before the first token of a tiling is white space, and what stands behind it is
tiled by the other tokens. -/
theorem Tiles.exists_split {start : Nat} {cs : List Char} {t : Token} {ts : List Token}
    (h : Tiles start cs (t :: ts)) : ∃ blanks after,
      cs = blanks ++ (t.lexeme.toList ++ after) ∧ t.position = start + byteLength blanks ∧
      AllBlank blanks ∧ t.kind.Stops after ∧ Tiles t.stop after ts := by
  obtain ⟨blanks, after, rfl, ht⟩ := h.slice t List.mem_cons_self
  have hord : ∀ u ∈ ts, t.stop ≤ u.position := (List.pairwise_cons.mp h.ordered).1
  have hstop : t.stop = start + byteLength blanks + byteLength t.lexeme.toList := by
    rw [Token.stop, ht]
  have hrest : ∀ {p w}, t.stop ≤ p →
      (StandsAt start (blanks ++ (t.lexeme.toList ++ after)) p w ↔ StandsAt t.stop after p w) := by
    intro p w hp
    rw [hstop] at hp ⊢
    exact standsAt_behind_iff hp
  refine ⟨blanks, after, rfl, ht, ?_, ?_, ?_⟩
  · -- a character of the white space lies before every token
    intro c hc
    obtain ⟨l, r, rfl⟩ := List.append_of_mem hc
    refine h.blank (start + byteLength l) c ⟨l, r ++ (t.lexeme.toList ++ after), by simp, rfl⟩ ?_
    have hlt : start + byteLength l < t.position := by
      have := c.utf8Size_pos
      rw [ht, byteLength_append, byteLength_cons]
      omega
    intro u hu
    rcases List.mem_cons.mp hu with rfl | hu
    · exact .inl hlt
    · have := hord u hu
      exact .inl (by omega)
  · intro c hc
    refine h.longest t List.mem_cons_self c ?_
    rw [hrest le_rfl]
    exact standsAt_start_iff.mpr hc
  · constructor
    case slice =>
      intro u hu
      exact (hrest (hord u hu)).mp (h.slice u (List.mem_cons_of_mem _ hu))
    case nonempty => exact fun u hu => h.nonempty u (List.mem_cons_of_mem _ hu)
    case ordered => exact (List.pairwise_cons.mp h.ordered).2
    case blank =>
      intro p c hc hout
      have hp := hc.bounds.1
      refine h.blank p c ((hrest hp).mpr hc) fun u hu => ?_
      rcases List.mem_cons.mp hu with rfl | hu
      · exact .inr hp
      · exact hout u hu
    case hasText => exact fun u hu => h.hasText u (List.mem_cons_of_mem _ hu)
    case longest =>
      intro u hu c hc
      exact h.longest u (List.mem_cons_of_mem _ hu) c ((hrest hc.bounds.1).mpr hc)

theorem laid_of_tiles {start : Nat} {cs : List Char} {ts : List Token} (h : Tiles start cs ts) :
    Laid start cs ts := by
  induction ts generalizing start cs with
  | nil =>
      refine .blanks fun c hc => ?_
      obtain ⟨l, r, rfl⟩ := List.append_of_mem hc
      exact h.blank (start + byteLength l) c ⟨l, r, rfl, rfl⟩ (by simp)
  | cons t ts ih =>
      obtain ⟨blanks, after, rfl, ht, hb, hs, hr⟩ := h.exists_split
      have hl := lexeme_iff_hasText.mpr (h.hasText t List.mem_cons_self)
      have hr' := ih hr
      rw [Token.stop, ht] at hr'
      have hlaid := Laid.token hb hl hs hr'
      rwa [String.ofList_toList, ← ht] at hlaid

theorem laid_iff_tiles {start : Nat} {cs : List Char} {ts : List Token} :
    Laid start cs ts ↔ Tiles start cs ts :=
  ⟨Laid.tiles, laid_of_tiles⟩

/-! ### The walk of the cursor -/

namespace Cursor

theorem front_ne_done {c : Char} {cs : List Char} : front (c :: cs) ≠ .done := by
  intro h
  simp only [front] at h
  repeat' split at h
  all_goals try cases h
  unfold frontQuoted at h
  split at h <;> cases h

theorem blank_of_next {s s' : Cursor} {t : Token} (h : s.next = (.ok t, s'))
    (ht : t.kind = .endOfInput) :
    AllBlank s.rest ∧ t = .ending (s.offset + byteLength s.rest) := by
  have hsplit := List.takeWhile_append_dropWhile (p := isBlank) (l := s.rest)
  unfold next at h
  simp only at h
  split at h
  · next hf =>
      cases h
      exact absurd ht (lexeme_of_front hf).1.ne_ending
  · cases h
  · next hf =>
      cases hd : s.rest.dropWhile isBlank with
      | cons c cs =>
          rw [hd] at hf
          exact absurd hf front_ne_done
      | nil =>
          rw [hd, List.append_nil] at hsplit
          cases h
          rw [hsplit]
          refine ⟨fun c hc => ?_, rfl⟩
          rw [← hsplit] at hc
          exact List.mem_takeWhile_imp hc

theorem laid_of_next {s s' : Cursor} {t : Token} {ts : List Token} (h : s.next = (.ok t, s'))
    (ht : t.kind ≠ .endOfInput) (hl : Laid s'.offset s'.rest ts) :
    s'.offset + byteLength s'.rest = s.offset + byteLength s.rest ∧
      Laid s.offset s.rest (t :: ts) := by
  obtain ⟨cs, start⟩ := s
  obtain ⟨after, stop⟩ := s'
  obtain ⟨kind, text, position⟩ := t
  obtain ⟨blanks, lexeme, hb, hx, hs, -, rfl⟩ := lexeme_of_next h ht
  have hn := next_lexeme start hb hx hs
  rw [h] at hn
  cases hn
  refine ⟨?_, .token hb hx hs hl⟩
  simp only [byteLength_append]
  omega

theorem tokens_of_laid {start : Nat} {cs : List Char} {ts : List Token} (h : Laid start cs ts) :
    tokens ⟨cs, start⟩ = .ok (ts ++ [.ending (start + byteLength cs)]) := by
  induction h with
  | blanks hb => exact tokens_of_ending (next_blanks _ hb) rfl
  | token hb hl hs _ ih =>
      rw [tokens_of_token (next_lexeme _ hb hl hs) hl.ne_ending, ih]
      simp only [byteLength_append, ← Nat.add_assoc]
      rfl

theorem tokens_eq_ok_iff_laid {s : Cursor} {us : List Token} :
    s.tokens = .ok us ↔ ∃ ts, us = ts ++ [.ending (s.offset + byteLength s.rest)] ∧
      Laid s.offset s.rest ts := by
  constructor
  · intro h
    fun_induction tokens s generalizing us with
    | case1 => cases h
    | case2 s t s' hn ht =>
        obtain ⟨hb, rfl⟩ := blank_of_next hn ht
        cases h
        exact ⟨[], rfl, .blanks hb⟩
    | case3 s t s₁ hn ht ih =>
        cases hs : s₁.tokens with
        | error e =>
            rw [hs] at h
            cases h
        | ok vs =>
            rw [hs] at h
            cases h
            obtain ⟨ts, rfl, hl⟩ := ih hs
            obtain ⟨he, hl'⟩ := laid_of_next hn ht hl
            exact ⟨t :: ts, by rw [he]; rfl, hl'⟩
  · rintro ⟨ts, rfl, h⟩
    exact tokens_of_laid h

end Cursor

/-! ### The tokens of a text -/

theorem tokenize_eq_ok_iff_laid {input : String} {us : List Token} :
    tokenize input = .ok us ↔
      ∃ ts, us = ts ++ [.ending input.utf8ByteSize] ∧ Laid 0 input.toList ts := by
  have h : (Cursor.ofString input).tokens = .ok us ↔ _ := Cursor.tokens_eq_ok_iff_laid
  simp only [Cursor.ofString, Nat.zero_add, byteLength_toList] at h
  exact h

/-- The tokens `us` tile the text: the last of them is its end, and the others are its slices. -/
def IsTiling (input : String) (us : List Token) : Prop :=
  ∃ ts, us = ts ++ [.ending input.utf8ByteSize] ∧ Tiles 0 input.toList ts

theorem tokenize_eq_ok_iff {input : String} {us : List Token} :
    tokenize input = .ok us ↔ IsTiling input us := by
  rw [tokenize_eq_ok_iff_laid]
  simp only [laid_iff_tiles]
  rfl

/-- The tokens of a tiling and the end of the text stand one behind the other. -/
theorem IsTiling.positions_lt {input : String} {us : List Token} (h : IsTiling input us) :
    us.Pairwise fun t u => t.position < u.position := by
  obtain ⟨ts, rfl, ht⟩ := h
  have hlt : ∀ t ∈ ts, t.position < t.stop := by
    intro t hm
    have hne : byteLength t.lexeme.toList ≠ 0 := by
      rw [byteLength_toList, ne_eq, String.utf8ByteSize_eq_zero_iff]
      exact ht.nonempty t hm
    rw [Token.stop]
    omega
  rw [List.pairwise_append]
  refine ⟨ht.ordered.imp_of_mem fun hm _ hle => Nat.lt_of_lt_of_le (hlt _ hm) hle,
    List.pairwise_singleton _ _, fun t hm u hu => ?_⟩
  rw [List.mem_singleton.mp hu, Token.ending]
  have hb := (ht.slice t hm).bounds.2
  rw [byteLength_toList input, Nat.zero_add] at hb
  exact Nat.lt_of_lt_of_le (hlt t hm) hb

/-- **The tokens of a text are its only tiling.**  A text is read as the tokens `us` exactly if
they tile it, and no text has two tilings. -/
theorem tokenize_eq_ok_iff_isTiling (input : String) :
    (∀ us, tokenize input = .ok us ↔ IsTiling input us) ∧
      ∀ us vs, IsTiling input us → IsTiling input vs → us = vs := by
  refine ⟨fun us => tokenize_eq_ok_iff, fun us vs hu hv => ?_⟩
  rw [← tokenize_eq_ok_iff] at hu hv
  exact Except.ok.inj (hu.symm.trans hv)

/-- Tokens need no white space between them.  The superscript goes on with the word, as it is a
number and no digit, and the places count bytes. -/
theorem isTiling_adjacent : IsTiling "\u00a0é²NE-7'10:00:00'eQ" [⟨.identifier, "é²NE", 2⟩,
    ⟨.literal .decimal, "-7", 8⟩, ⟨.literal .time, "'10:00:00'", 10⟩, ⟨.comparator .eq, "eQ", 20⟩,
    .ending 22] := by
  have hb : AllBlank ['\u00a0'] := by
    intro c hc
    rw [List.mem_singleton.mp hc]
    decide
  have hw : Lexeme .identifier ['é', '²', 'N', 'E'] :=
    Lexeme.word_of_all 'é' ['²', 'N', 'E'] (by decide +kernel) (by decide +kernel)
  have hs : TokenKind.identifier.Stops "-7'10:00:00'eQ".toList :=
    TokenKind.stops_cons (by decide) (by decide +kernel)
  have h₁ : Cursor.next ⟨"\u00a0é²NE-7'10:00:00'eQ".toList, 0⟩
      = (.ok ⟨.identifier, "é²NE", 2⟩, ⟨"-7'10:00:00'eQ".toList, 8⟩) := by
    have he : "\u00a0é²NE-7'10:00:00'eQ".toList =
        ['\u00a0'] ++ (['é', '²', 'N', 'E'] ++ "-7'10:00:00'eQ".toList) := by decide +kernel
    have hn := Cursor.next_lexeme 0 hb hw hs
    rw [← he] at hn
    exact hn
  have h₂ : Cursor.next ⟨"-7'10:00:00'eQ".toList, 8⟩
      = (.ok ⟨.literal .decimal, "-7", 8⟩, ⟨"'10:00:00'eQ".toList, 10⟩) := rfl
  have h₃ : Cursor.next ⟨"'10:00:00'eQ".toList, 10⟩
      = (.ok ⟨.literal .time, "'10:00:00'", 10⟩, ⟨"eQ".toList, 20⟩) := rfl
  have h₄ : Cursor.next ⟨"eQ".toList, 20⟩ = (.ok ⟨.comparator .eq, "eQ", 20⟩, ⟨[], 22⟩) := rfl
  have h₅ : Cursor.next ⟨[], 22⟩ = (.ok (.ending 22), ⟨[], 22⟩) := rfl
  exact ((tokenize_eq_ok_iff_isTiling _).1 _).mp (Cursor.tokens_eq_ok_iff.mpr ⟨_, _, _, _,
    .cons h₁ (by decide) (.cons h₂ (by decide) (.cons h₃ (by decide) (.cons h₄ (by decide) .nil))),
    h₅, rfl, rfl⟩)

end RecordFilter
