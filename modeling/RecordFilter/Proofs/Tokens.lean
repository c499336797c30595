import Mathlib.Data.List.TakeWhile
import RecordFilter.Token.Lexer

/-! # Lexemes

What `Cursor.next` takes from a text, said without the cursor.  `Lexeme k cs` is the set of texts
that are tokens of the kind `k`, and `k.Stops after` says that no longer token begins at the same
place.  The front of a text is read as the token `cs` exactly if both hold, so a lexeme that is
written behind white space and in front of something that stops it is read as one token
(`Cursor.next_lexeme`), and every token that is read was written so (`Cursor.lexeme_of_next`).

`Reads s ts s'` is the walk of the cursor over the tokens `ts`.  A text is tokenized exactly if
such a walk ends at the end of the input, which is the last token and the only one of its kind
(`tokenize_eq_ok`). -/

namespace RecordFilter

/-! ### Character classes -/

theorem CodeRange.first_le_of_anyContains {rs : List CodeRange} {n : Nat}
    (hn : rs.all (fun r => decide (n ≤ r.first)) = true) {c : Char}
    (h : anyContains rs c = true) : n ≤ c.toNat := by
  obtain ⟨r, hr, hc⟩ := List.any_eq_true.mp h
  have h1 := of_decide_eq_true (List.all_eq_true.mp hn r hr)
  simp only [contains, Bool.and_eq_true, decide_eq_true_eq] at hc
  omega

theorem CodeRange.not_anyContains {rs ss : List CodeRange}
    (hd : rs.all (fun r => ss.all fun s => decide (r.last < s.first ∨ s.last < r.first)) = true)
    {c : Char} (h : anyContains rs c = true) : anyContains ss c = false := by
  obtain ⟨r, hr, hc⟩ := List.any_eq_true.mp h
  refine Bool.eq_false_iff.mpr fun h' => ?_
  obtain ⟨s, hs, hc'⟩ := List.any_eq_true.mp h'
  have h1 := of_decide_eq_true (List.all_eq_true.mp (List.all_eq_true.mp hd r hr) s hs)
  simp only [contains, Bool.and_eq_true, decide_eq_true_eq] at hc hc'
  omega

theorem isBlank_of_isAlphabetic {c : Char} (h : isAlphabetic c = true) : isBlank c = false :=
  CodeRange.not_anyContains (by decide +kernel) h

theorem isBlank_of_isNumeric {c : Char} (h : isNumeric c = true) : isBlank c = false :=
  CodeRange.not_anyContains (by decide +kernel) h

theorem continuesWord_of_isBlank {c : Char} (h : isBlank c = true) : continuesWord c = false := by
  have ha : isAlphabetic c = false :=
    Bool.eq_false_iff.mpr fun h' => by simp [isBlank_of_isAlphabetic h'] at h
  have hn : isNumeric c = false :=
    Bool.eq_false_iff.mpr fun h' => by simp [isBlank_of_isNumeric h'] at h
  have hu : c ≠ '_' := by
    rintro rfl
    exact absurd h (by decide)
  simp [continuesWord, ha, hn, hu]

theorem continuesWord_of_beginsWord {c : Char} (h : beginsWord c = true) :
    continuesWord c = true := by
  simp only [beginsWord, continuesWord, Bool.or_eq_true] at h ⊢
  rcases h with h | h
  · exact .inl (.inl h)
  · exact .inr h

theorem isBlank_of_isDigit {c : Char} (h : c.isDigit = true) : isBlank c = false := by
  have h1 := Char.isDigit_iff_toNat.mp h
  refine isBlank_of_isNumeric (List.any_eq_true.mpr ⟨⟨0x30, 0x39⟩, List.mem_cons_self, ?_⟩)
  simpa [CodeRange.contains] using h1

/-- A word begins with a character behind the punctuation and the digits of ASCII. -/
theorem toNat_of_beginsWord {c : Char} (h : beginsWord c = true) : 65 ≤ c.toNat := by
  rcases Bool.or_eq_true_iff.mp h with h | h
  · exact CodeRange.first_le_of_anyContains (by decide +kernel) h
  · rw [beq_iff_eq.mp h]
    decide

theorem isDigit_of_beginsWord {c : Char} (h : beginsWord c = true) : c.isDigit = false := by
  have h1 := toNat_of_beginsWord h
  refine Bool.eq_false_iff.mpr fun hd => ?_
  have h2 : c.toNat ≤ 57 := (Char.isDigit_iff_toNat.mp hd).2
  omega

theorem ne_of_beginsWord {c d : Char} (h : beginsWord c = true) (hd : d.toNat < 65) : c ≠ d := by
  rintro rfl
  exact absurd (toNat_of_beginsWord h) (by omega)

/-- A run of characters of a class ends where the next character is not in the class. -/
theorem span_append {p : Char → Bool} {l rest : List Char} (hl : ∀ c ∈ l, p c = true)
    (hr : ∀ c ∈ rest.head?, p c = false) :
    (l ++ rest).takeWhile p = l ∧ (l ++ rest).dropWhile p = rest := by
  rw [List.takeWhile_append_of_pos hl, List.dropWhile_append_of_pos hl]
  cases rest with
  | nil => simp
  | cons c rest => simp [hr c rfl]

theorem head?_dropWhile {p : Char → Bool} {l : List Char} :
    ∀ c ∈ (l.dropWhile p).head?, p c = false := by
  intro c hc
  have h := List.head?_dropWhile_not p l
  rw [Option.mem_def.mp hc] at h
  simpa using h

/-! ### Lexemes of a kind -/

/-- `Lexeme k cs`: the text `cs` is a token of the kind `k`. -/
inductive Lexeme : TokenKind → List Char → Prop
  | leftParen : Lexeme .leftParen ['(']
  | rightParen : Lexeme .rightParen [')']
  | quoted {content : List Char} (h : '\'' ∉ content) :
      Lexeme (.literal (quotedShape content)) ('\'' :: content ++ ['\''])
  | decimal {digits : List Char} (hne : digits ≠ []) (h : ∀ c ∈ digits, c.isDigit = true) :
      Lexeme (.literal .decimal) digits
  | negative {digits : List Char} (hne : digits ≠ []) (h : ∀ c ∈ digits, c.isDigit = true) :
      Lexeme (.literal .decimal) ('-' :: digits)
  | word {c : Char} {cs : List Char} (hc : beginsWord c = true)
      (hcs : ∀ d ∈ cs, continuesWord d = true) : Lexeme (wordKind (c :: cs)) (c :: cs)

theorem Lexeme.word_of_all (c : Char) (cs : List Char) (hc : beginsWord c = true)
    (hcs : cs.all continuesWord = true) : Lexeme (wordKind (c :: cs)) (c :: cs) :=
  .word hc (List.all_eq_true.mp hcs)

namespace TokenKind

/-- Whether a character would lengthen a token of this kind. -/
def continuedBy : TokenKind → Char → Bool
  | .literal .decimal, c => c.isDigit
  | .identifier, c | .connective _, c | .comparator _, c => continuesWord c
  | _, _ => false

/-- A token of this kind ends in front of the text. -/
def Stops (k : TokenKind) (after : List Char) : Prop :=
  ∀ c ∈ after.head?, k.continuedBy c = false

theorem stops_nil (k : TokenKind) : k.Stops [] :=
  fun _ h => nomatch h

/-- Where a text is followed by another one, only a token in front of an empty text depends on
that. -/
theorem stops_append_iff {k : TokenKind} {cs ds : List Char} :
    k.Stops (cs ++ ds) ↔ k.Stops cs ∧ (cs = [] → k.Stops ds) := by
  cases cs <;> simp [Stops]

end TokenKind

theorem wordKind_cases (w : List Char) :
    wordKind w = .identifier ∨ (∃ op, wordKind w = .connective op) ∨
      ∃ op, wordKind w = .comparator op := by
  unfold wordKind
  split
  · next kind h =>
      have hm := List.mem_of_find?_eq_some h
      simp only [keywords, List.mem_cons, Prod.mk.injEq, List.not_mem_nil, or_false] at hm
      rcases hm with ⟨_, rfl⟩ | ⟨_, rfl⟩ | ⟨_, rfl⟩ | ⟨_, rfl⟩ | ⟨_, rfl⟩ | ⟨_, rfl⟩ <;> simp
  · exact .inl rfl

theorem wordKind_continuedBy (w : List Char) (c : Char) :
    (wordKind w).continuedBy c = continuesWord c := by
  rcases wordKind_cases w with h | ⟨op, h⟩ | ⟨op, h⟩ <;> rw [h] <;> rfl

theorem quotedShape_continuedBy (content : List Char) (c : Char) :
    (TokenKind.literal (quotedShape content)).continuedBy c = false := by
  unfold quotedShape
  split
  · rfl
  · split <;> rfl

theorem Lexeme.ne_ending {k : TokenKind} {cs : List Char} (h : Lexeme k cs) :
    k ≠ .endOfInput := by
  cases h with
  | word hc hcs => rcases wordKind_cases _ with h | ⟨_, h⟩ | ⟨_, h⟩ <;> rw [h] <;> simp
  | _ => simp

/-- A token is not empty and does not begin with white space. -/
theorem Lexeme.exists_cons {k : TokenKind} {cs : List Char} (h : Lexeme k cs) :
    ∃ c cs', cs = c :: cs' ∧ isBlank c = false := by
  cases h with
  | leftParen | rightParen | quoted | negative => exact ⟨_, _, rfl, by decide⟩
  | decimal hne hd =>
      cases cs with
      | nil => exact absurd rfl hne
      | cons c cs => exact ⟨c, cs, rfl, isBlank_of_isDigit (hd c List.mem_cons_self)⟩
  | word hc _ =>
      refine ⟨_, _, rfl, Bool.eq_false_iff.mpr fun hb => ?_⟩
      have := continuesWord_of_isBlank hb
      rw [continuesWord_of_beginsWord hc] at this
      cases this

/-! ### The front of a text -/

theorem frontQuoted_eq_token_iff {cs lexeme after : List Char} {kind : TokenKind} :
    frontQuoted cs = .token kind lexeme after ↔
      ∃ content, '\'' ∉ content ∧ kind = .literal (quotedShape content) ∧
        lexeme = '\'' :: content ++ ['\''] ∧ cs = content ++ '\'' :: after := by
  have hsplit := List.takeWhile_append_dropWhile (p := (· != '\'')) (l := cs)
  constructor
  · intro h
    unfold frontQuoted at h
    split at h
    · cases h
    · next quote rest hd =>
        have hq : quote = '\'' := by
          have := head?_dropWhile (p := (· != '\'')) (l := cs) quote (by rw [hd]; rfl)
          simpa using this
        cases h
        subst hq
        refine ⟨_, fun hm => ?_, rfl, rfl, by rw [← hd, hsplit]⟩
        have := List.mem_takeWhile_imp hm
        simp at this
  · rintro ⟨content, hq, rfl, rfl, rfl⟩
    have hl : ∀ c ∈ content, (c != '\'') = true := fun c hc => by
      rw [bne_iff_ne]
      rintro rfl
      exact hq hc
    obtain ⟨h1, h2⟩ := @span_append _ _ ('\'' :: after) hl (by simp)
    unfold frontQuoted
    rw [h1, h2]

theorem front_quote (cs : List Char) : front ('\'' :: cs) = frontQuoted cs := rfl

theorem frontQuoted_of_unclosed {cs : List Char} (hq : '\'' ∉ cs) :
    frontQuoted cs = .fault ('\'' :: cs) [] := by
  have hd : cs.dropWhile (· != '\'') = [] := by
    rw [List.dropWhile_eq_nil_iff]
    intro c hc
    rw [bne_iff_ne]
    rintro rfl
    exact hq hc
  rw [frontQuoted, hd]

theorem lexeme_of_front {cs lexeme after : List Char} {kind : TokenKind}
    (h : front cs = .token kind lexeme after) :
    Lexeme kind lexeme ∧ kind.Stops after ∧ cs = lexeme ++ after := by
  cases cs with
  | nil => cases h
  | cons c cs =>
      have hd := List.takeWhile_append_dropWhile (p := Char.isDigit) (l := cs)
      have hw := List.takeWhile_append_dropWhile (p := continuesWord) (l := cs)
      simp only [front] at h
      split at h
      · next hc =>
          cases h
          subst hc
          exact ⟨.leftParen, fun _ _ => rfl, rfl⟩
      split at h
      · next hc =>
          cases h
          subst hc
          exact ⟨.rightParen, fun _ _ => rfl, rfl⟩
      split at h
      · next hc =>
          obtain ⟨content, hq, rfl, rfl, rfl⟩ := frontQuoted_eq_token_iff.mp h
          subst hc
          refine ⟨.quoted hq, fun d _ => quotedShape_continuedBy content d, ?_⟩
          simp
      split at h
      · next hc =>
          split at h
          · cases h
          · next hne =>
              cases h
              subst hc
              refine ⟨.negative hne fun d hd' => List.mem_takeWhile_imp hd', ?_, ?_⟩
              · exact head?_dropWhile
              · rw [List.cons_append, hd]
      split at h
      · next hc =>
          cases h
          refine ⟨.decimal (List.cons_ne_nil _ _) fun d hd' => ?_, head?_dropWhile, ?_⟩
          · rcases List.mem_cons.mp hd' with rfl | hd'
            · exact hc
            · exact List.mem_takeWhile_imp hd'
          · rw [List.cons_append, hd]
      split at h
      · next hc =>
          cases h
          refine ⟨.word hc fun d hd' => List.mem_takeWhile_imp hd', fun d hd' => ?_, ?_⟩
          · rw [wordKind_continuedBy]
            exact head?_dropWhile d hd'
          · rw [List.cons_append, hw]
      · cases h

theorem front_lexeme {lexeme after : List Char} {kind : TokenKind} (hl : Lexeme kind lexeme)
    (hs : kind.Stops after) : front (lexeme ++ after) = .token kind lexeme after := by
  cases hl with
  | leftParen => rfl
  | rightParen => rfl
  | @quoted content hq =>
      have h : frontQuoted (content ++ '\'' :: after) = _ :=
        frontQuoted_eq_token_iff.mpr ⟨content, hq, rfl, rfl, rfl⟩
      simpa [front] using h
  | decimal hne hd =>
      cases lexeme with
      | nil => exact absurd rfl hne
      | cons c digits =>
          have hc := hd c List.mem_cons_self
          obtain ⟨h1, h2⟩ := span_append (fun d hd' => hd d (List.mem_cons_of_mem _ hd')) hs
          have hn := Char.isDigit_iff_toNat.mp hc
          have hne : ∀ d : Char, d.toNat < 48 → c ≠ d := by
            rintro d hd rfl
            exact absurd hn.1 (by simpa using hd)
          simp only [List.cons_append, front, hne '(' (by decide), hne ')' (by decide),
            hne '\'' (by decide), hne '-' (by decide), hc, if_true, if_false, h1, h2]
  | @negative digits hne hd =>
      obtain ⟨h1, h2⟩ := span_append hd hs
      cases digits with
      | nil => exact absurd rfl hne
      | cons d digits =>
          rw [List.cons_append] at h1 h2
          rw [List.cons_append, List.cons_append, front]
          simp [h1, h2]
  | @word c cs hc hcs =>
      have hs' : ∀ d ∈ after.head?, continuesWord d = false := fun d hd => by
        rw [← wordKind_continuedBy (c :: cs)]
        exact hs d hd
      obtain ⟨h1, h2⟩ := span_append hcs hs'
      simp [front, ne_of_beginsWord hc, isDigit_of_beginsWord hc, hc, h1, h2]

/-! ### Steps of the cursor -/

/-- A text of white space only. -/
def AllBlank (cs : List Char) : Prop :=
  ∀ c ∈ cs, isBlank c = true

namespace Cursor

/-- A lexeme behind white space is the next token if it goes no further. -/
theorem next_lexeme {blanks lexeme after : List Char} {kind : TokenKind} (offset : Nat)
    (hb : AllBlank blanks) (hl : Lexeme kind lexeme) (hs : kind.Stops after) :
    next ⟨blanks ++ (lexeme ++ after), offset⟩ =
      (.ok ⟨kind, String.ofList lexeme, offset + byteLength blanks⟩,
        ⟨after, offset + byteLength blanks + byteLength lexeme⟩) := by
  have hr : ∀ c ∈ (lexeme ++ after).head?, isBlank c = false := by
    obtain ⟨c, cs, rfl, hc⟩ := hl.exists_cons
    simpa using hc
  obtain ⟨h1, h2⟩ := span_append hb hr
  simp only [next, h1, h2, front_lexeme hl hs]

theorem next_blanks {blanks : List Char} (offset : Nat) (hb : AllBlank blanks) :
    next ⟨blanks, offset⟩ =
      (.ok (.ending (offset + byteLength blanks)), ⟨[], offset + byteLength blanks⟩) := by
  obtain ⟨h1, h2⟩ := @span_append _ _ [] hb (by simp)
  rw [List.append_nil] at h1 h2
  simp only [next, h1, h2, front]

theorem lexeme_of_next {s s' : Cursor} {t : Token} (h : s.next = (.ok t, s'))
    (ht : t.kind ≠ .endOfInput) : ∃ blanks lexeme, AllBlank blanks ∧ Lexeme t.kind lexeme ∧
      t.kind.Stops s'.rest ∧ t.lexeme = String.ofList lexeme ∧
      s.rest = blanks ++ (lexeme ++ s'.rest) := by
  have hsplit := List.takeWhile_append_dropWhile (p := isBlank) (l := s.rest)
  unfold next at h
  simp only at h
  split at h
  · next hf =>
      obtain ⟨hl, hs, he⟩ := lexeme_of_front hf
      cases h
      exact ⟨_, _, fun c hc => List.mem_takeWhile_imp hc, hl, hs, rfl, by rw [← he, hsplit]⟩
  · cases h
  · cases h
    exact absurd rfl ht

theorem lexeme_kind_of_next {s s' : Cursor} {t : Token} (h : s.next = (.ok t, s'))
    (ht : t.kind ≠ .endOfInput) : Lexeme t.kind t.lexeme.toList := by
  obtain ⟨_, lexeme, _, hl, _, he, _⟩ := lexeme_of_next h ht
  rwa [he, String.toList_ofList]

theorem ending_of_next {s s' : Cursor} {t : Token} (h : s.next = (.ok t, s'))
    (ht : t.kind = .endOfInput) : t = .ending t.position := by
  unfold next at h
  simp only at h
  split at h
  · next hf =>
      cases h
      exact absurd ht (lexeme_of_front hf).1.ne_ending
  · cases h
  · cases h
    rfl

theorem tokens_of_token {s s' : Cursor} {t : Token} (h : s.next = (.ok t, s'))
    (ht : t.kind ≠ .endOfInput) : s.tokens = s'.tokens.map (t :: ·) := by
  rw [tokens]
  split
  · next h' => simp [h] at h'
  · next h' =>
      rw [h] at h'
      cases h'
      rw [dif_neg ht]

theorem tokens_of_ending {s s' : Cursor} {t : Token} (h : s.next = (.ok t, s'))
    (ht : t.kind = .endOfInput) : s.tokens = .ok [t] := by
  rw [tokens]
  split
  · next h' => simp [h] at h'
  · next h' =>
      rw [h] at h'
      cases h'
      rw [dif_pos ht]

theorem tokens_of_error {s s' : Cursor} {e : FilterError} (h : s.next = (.error e, s')) :
    s.tokens = .error e := by
  rw [tokens]
  split
  · next h' =>
      rw [h] at h'
      cases h'
      rfl
  · next h' =>
      rw [h] at h'
      cases h'

/-! ### Walks of the cursor -/

/-- `Reads s ts s'`: the cursor walks from `s` to `s'` over the tokens `ts`, none of which is the
end of the input. -/
inductive Reads : Cursor → List Token → Cursor → Prop
  | nil {s : Cursor} : Reads s [] s
  | cons {s s₁ s' : Cursor} {t : Token} {ts : List Token} (h : s.next = (.ok t, s₁))
      (ht : t.kind ≠ .endOfInput) (hr : Reads s₁ ts s') : Reads s (t :: ts) s'

theorem Reads.trans {s s₁ s₂ : Cursor} {ts us : List Token} (h : Reads s ts s₁)
    (h' : Reads s₁ us s₂) : Reads s (ts ++ us) s₂ := by
  induction h with
  | nil => exact h'
  | cons h ht _ ih => exact .cons h ht (ih h')

theorem Reads.ne_ending {s s' : Cursor} {ts : List Token} (h : Reads s ts s') :
    ∀ t ∈ ts, t.kind ≠ .endOfInput := by
  induction h with
  | nil => simp
  | cons _ ht _ ih =>
      intro u hu
      rcases List.mem_cons.mp hu with rfl | hu
      · exact ht
      · exact ih u hu

theorem Reads.lexemes {s s' : Cursor} {ts : List Token} (h : Reads s ts s') :
    ∀ t ∈ ts, Lexeme t.kind t.lexeme.toList := by
  induction h with
  | nil => simp
  | cons h ht _ ih =>
      intro u hu
      rcases List.mem_cons.mp hu with rfl | hu
      · exact lexeme_kind_of_next h ht
      · exact ih u hu

theorem Reads.tokens_eq {s s' : Cursor} {ts : List Token} (h : Reads s ts s') :
    s.tokens = s'.tokens.map (ts ++ ·) := by
  induction h with
  | @nil s => cases s.tokens <;> rfl
  | @cons s s₁ s' t ts h ht _ ih =>
      rw [tokens_of_token h ht, ih]
      cases s'.tokens <;> rfl

/-- The tokens of a cursor are those of a walk to the end of the input, and this end. -/
theorem tokens_eq_ok_iff {s : Cursor} {us : List Token} :
    s.tokens = .ok us ↔ ∃ ts s' t s'', Reads s ts s' ∧ s'.next = (.ok t, s'') ∧
      t.kind = .endOfInput ∧ us = ts ++ [t] := by
  constructor
  · intro h
    fun_induction tokens s generalizing us with
    | case1 => cases h
    | case2 s t s'' hn ht =>
        cases h
        exact ⟨[], s, t, s'', .nil, hn, ht, rfl⟩
    | case3 s t s₁ hn ht ih =>
        cases hs : s₁.tokens with
        | error e =>
            rw [hs] at h
            cases h
        | ok vs =>
            rw [hs] at h
            cases h
            obtain ⟨ts, s', u, s'', hr, hn', hu, rfl⟩ := ih hs
            exact ⟨t :: ts, s', u, s'', .cons hn ht hr, hn', hu, rfl⟩
  · rintro ⟨ts, s', t, s'', hr, hn, ht, rfl⟩
    rw [hr.tokens_eq, tokens_of_ending hn ht]
    rfl

end Cursor

/-- A text has tokens only if a walk over all but the last of them ends in front of white space,
and the last one is the end of the input. -/
theorem tokenize_eq_ok {input : String} {ts : List Token} {t : Token}
    (h : tokenize input = .ok (ts ++ [t])) :
    t = .ending t.position ∧ ∃ s', Cursor.Reads (Cursor.ofString input) ts s' := by
  obtain ⟨us, s', u, s'', hr, hn, hu, he⟩ := Cursor.tokens_eq_ok_iff.mp h
  obtain ⟨rfl, h1⟩ := List.append_inj' he rfl
  cases h1
  exact ⟨Cursor.ending_of_next hn hu, s', hr⟩

end RecordFilter
