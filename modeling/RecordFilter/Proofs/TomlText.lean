import RecordFilter.Toml.Quoted

/-! # Quoted TOML texts are read back

A text is quoted in one of four ways.  Each has a reader of its own, which takes the content
character by character until the quotes that close it.  A character that has an escape is read as
one step (`readEscaped_escaped`, `readEscapedLines_escaped`).

In a text over several lines three quotes in a row close it, and up to two more in front of them
belong to it.  So what is read of a quote depends on the quotes next to it.  Between double quotes
the writer never puts down a third quote as it is, and the induction carries along the quotes
behind which it stands (`readEscapedLines_content`).  Between single quotes nothing has an escape,
but such quotes are taken only for texts without three in a row (`readLiteralLines_content`). -/

namespace RecordFilter

namespace Toml

/-- No quote stands in front of the text. -/
def Unquoted (rest : List Char) : Prop :=
  ∀ c ∈ rest.head?, c ≠ '"' ∧ c ≠ '\''

section reading
variable {rest : List Char}

/-! ### Single characters -/

theorem hexCode?_control : ∀ n < 128,
    hexCode? ['0', '0', (hexDigit (n / 16)).toUpper, (hexDigit (n % 16)).toUpper] = some n := by
  decide

/-- A character is written with an escape of one letter, with its code, or as it is. -/
theorem escaped_cases (c : Char) :
    (∃ d, escaped c = ['\\', d] ∧ unescape? d = some c ∧ d ≠ 'u' ∧ d ≠ 'U') ∨
    (c.toNat < 128 ∧ escaped c = ['\\', 'u', '0', '0', (hexDigit (c.toNat / 16)).toUpper,
      (hexDigit (c.toNat % 16)).toUpper]) ∨
    (escaped c = [c] ∧ c ≠ '"' ∧ c ≠ '\\' ∧ c ≠ '\r' ∧ isPlain c = true) := by
  unfold escaped
  iterate 7
    split
    · next h =>
        subst h
        exact .inl ⟨_, rfl, by decide, by decide, by decide⟩
  split
  · next hc =>
    refine .inr (.inl ⟨?_, rfl⟩)
    rcases hc with hc | rfl
    · omega
    · decide
  · next hq hb _ _ _ _ hr hc =>
    refine .inr (.inr ⟨rfl, hq, hb, hr, ?_⟩)
    simp only [not_or] at hc
    simp [isPlain, hc.2]
    omega

theorem character?_control {c : Char} (h : c.toNat < 128) :
    character? ['0', '0', (hexDigit (c.toNat / 16)).toUpper, (hexDigit (c.toNat % 16)).toUpper] =
      some c := by
  rw [character?, hexCode?_control _ h]
  simp only [Option.bind_some]
  rw [if_pos (show c.toNat.isValidChar from c.valid), Char.ofNat_toNat]

theorem readEscaped_plain {c : Char} (hq : c ≠ '"') (hb : c ≠ '\\') (h : isPlain c = true)
    (rest : List Char) : readEscaped (c :: rest) = prepend c (readEscaped rest) := by
  rw [readEscaped.eq_def]
  simp only [hq, hb, h, if_true, if_false]

theorem readEscapedLines_plain {c : Char} (hq : c ≠ '"') (hb : c ≠ '\\') (hr : c ≠ '\r')
    (h : isPlain c = true ∨ c = '\n') (rest : List Char) :
    readEscapedLines false (c :: rest) = prepend c (readEscapedLines false rest) := by
  have hplain : (isPlain c || c == '\n') = true := by simpa using h
  rw [readEscapedLines.eq_def]
  simp only [hq, hb, hr, hplain, Bool.false_and, Bool.false_eq_true, if_true, if_false]

theorem readEscapedLines_letter {c d : Char} (h : unescape? c = some d) (hu : c ≠ 'u')
    (hU : c ≠ 'U') (rest : List Char) :
    readEscapedLines false ('\\' :: c :: rest) = prepend d (readEscapedLines false rest) := by
  rw [readEscapedLines.eq_def]
  simp [h, hu, hU]

theorem readEscaped_escaped (c : Char) (rest : List Char) :
    readEscaped (escaped c ++ rest) = prepend c (readEscaped rest) := by
  rcases escaped_cases c with ⟨d, he, hd, hu, hU⟩ | ⟨hc, he⟩ | ⟨he, hq, hb, -, hplain⟩
  · rw [he]
    simp [readEscaped, hd, hu, hU]
  · rw [he]
    simp [readEscaped, character?_control hc]
  · rw [he]
    exact readEscaped_plain hq hb hplain rest

theorem readEscapedLines_escaped (c : Char) (rest : List Char) :
    readEscapedLines false (escaped c ++ rest) = prepend c (readEscapedLines false rest) := by
  rcases escaped_cases c with ⟨d, he, hd, hu, hU⟩ | ⟨hc, he⟩ | ⟨he, hq, hb, hr, hplain⟩
  · rw [he]
    exact readEscapedLines_letter hd hu hU rest
  · rw [he]
    simp [readEscapedLines, character?_control hc]
  · rw [he]
    exact readEscapedLines_plain hq hb hr (.inl hplain) rest

/-! ### Contents -/

theorem readEscaped_content (cs : List Char) :
    readEscaped (cs.flatMap escaped ++ '"' :: rest) = some (cs, rest) := by
  induction cs with
  | nil => rw [List.flatMap_nil, List.nil_append, readEscaped.eq_def]; rfl
  | cons c cs ih =>
      rw [List.flatMap_cons, List.append_assoc, readEscaped_escaped, ih]
      rfl

theorem readLiteral_content {cs : List Char} (hplain : ∀ c ∈ cs, isPlain c = true)
    (hquote : '\'' ∉ cs) : readLiteral (cs ++ '\'' :: rest) = some (cs, rest) := by
  induction cs with
  | nil => rfl
  | cons c cs ih =>
      rw [List.forall_mem_cons] at hplain
      rw [List.mem_cons, not_or] at hquote
      rw [List.cons_append, readLiteral, if_neg (Ne.symm hquote.1), if_pos hplain.1,
        ih hplain.2 hquote.2]
      rfl

/-- Behind the three quotes that are found first, the last quotes of a text are left. -/
theorem closeLines_quotes {quote : Char} (hrest : rest.head? ≠ some quote) {q : Nat} (hq : q ≤ 2) :
    closeLines quote (List.replicate q quote ++ rest) = (List.replicate q quote, rest) := by
  match q, hq, rest with
  | 0, _, [] => rfl
  | 0, _, [c] => simp_all [closeLines]
  | 0, _, c :: d :: rest => simp_all [closeLines]
  | 1, _, [] => simp [closeLines]
  | 1, _, c :: rest => simp_all [closeLines, List.replicate]
  | 2, _, rest => simp [closeLines, List.replicate]

/-- Quotes that stand in front of three others might as well stand behind them. -/
theorem replicate_append_three (quote : Char) {q : Nat} (hq : q ≤ 2) :
    List.replicate q quote ++ quote :: quote :: quote :: rest =
      quote :: quote :: quote :: (List.replicate q quote ++ rest) := by
  match q, hq with
  | 0, _ | 1, _ | 2, _ => rfl

theorem readEscapedLines_quote {tail : List Char} (h : ∀ more, tail ≠ '"' :: '"' :: more) :
    readEscapedLines false ('"' :: tail) = prepend '"' (readEscapedLines false tail) := by
  rw [readEscapedLines.eq_def]
  simp

theorem readEscapedLines_behind {tail : List Char} (h : tail.head? ≠ some '"') {q : Nat}
    (hq : q ≤ 2) : readEscapedLines false (List.replicate q '"' ++ tail) =
      (readEscapedLines false tail).map fun (cs, rest) => (List.replicate q '"' ++ cs, rest) := by
  have hone : readEscapedLines false ('"' :: tail) = prepend '"' (readEscapedLines false tail) :=
    readEscapedLines_quote fun more hmore => h (by rw [hmore]; rfl)
  match q, hq with
  | 0, _ =>
      change readEscapedLines false tail = _
      cases readEscapedLines false tail <;> rfl
  | 1, _ => exact hone
  | 2, _ =>
      have htwo : readEscapedLines false ('"' :: '"' :: tail) =
          prepend '"' (readEscapedLines false ('"' :: tail)) :=
        readEscapedLines_quote fun more hmore => h (by rw [(List.cons.inj hmore).2]; rfl)
      change readEscapedLines false ('"' :: '"' :: tail) = _
      rw [htwo, hone]
      cases readEscapedLines false tail <;> rfl

/-- No escape or character that stands as it is begins with a quote or breaks a line. -/
theorem head?_escaped (c : Char) (tail : List Char) :
    ∃ d, (escaped c ++ tail).head? = some d ∧ d ≠ '"' ∧ isPlain d = true := by
  rcases escaped_cases c with ⟨d, he, -⟩ | ⟨-, he⟩ | ⟨he, hq, -, -, hplain⟩
  · exact ⟨'\\', by simp [he], by decide, by decide⟩
  · exact ⟨'\\', by simp [he], by decide, by decide⟩
  · exact ⟨c, by simp [he], hq, hplain⟩

theorem head?_escaped_ne_quote (c : Char) (tail : List Char) :
    (escaped c ++ tail).head? ≠ some '"' := by
  obtain ⟨d, hd, hquote, -⟩ := head?_escaped c tail
  rw [hd]
  simpa using hquote

/-- The quotes in front are those behind which the rest of the text is written. -/
theorem readEscapedLines_content (hrest : rest.head? ≠ some '"') (cs : List Char) {q : Nat}
    (hq : q ≤ 2) : readEscapedLines false
        (List.replicate q '"' ++ (escapedLines q cs ++ '"' :: '"' :: '"' :: rest)) =
      some (List.replicate q '"' ++ cs, rest) := by
  induction cs generalizing q with
  | nil =>
      have hclose : readEscapedLines false ('"' :: '"' :: '"' :: (List.replicate q '"' ++ rest)) =
          some (closeLines '"' (List.replicate q '"' ++ rest)) := by
        rw [readEscapedLines.eq_def]
        rfl
      rw [escapedLines, List.nil_append, replicate_append_three '"' hq, hclose,
        closeLines_quotes hrest hq, List.append_nil]
  | cons c cs ih =>
      have hnext := ih (Nat.zero_le 2)
      rw [List.replicate_zero, List.nil_append] at hnext
      rw [escapedLines]
      by_cases hquote : c = '"'
      · subst hquote
        rw [if_pos rfl]
        by_cases hlast : q = 2
        · rw [if_pos hlast, show '\\' :: '"' :: escapedLines 0 cs = escaped '"' ++ escapedLines 0 cs
            from rfl, List.append_assoc, readEscapedLines_behind (head?_escaped_ne_quote _ _) hq,
            readEscapedLines_escaped, hnext]
          rfl
        · have hmore := ih (show q + 1 ≤ 2 by omega)
          rw [if_neg hlast]
          rwa [List.replicate_succ', List.append_assoc, List.append_assoc] at hmore
      · rw [if_neg hquote]
        by_cases hbreak : c = '\n'
        · rw [if_pos hbreak, List.cons_append,
            readEscapedLines_behind (by simpa using hquote) hq,
            readEscapedLines_plain hquote (by simp [hbreak]) (by simp [hbreak]) (.inr hbreak),
            hnext]
          rfl
        · rw [if_neg hbreak, List.append_assoc,
            readEscapedLines_behind (head?_escaped_ne_quote c _) hq, readEscapedLines_escaped,
            hnext]
          rfl

theorem readLiteralLines_close (hrest : rest.head? ≠ some '\'') {q : Nat} (hq : q ≤ 2) :
    readLiteralLines (List.replicate q '\'' ++ '\'' :: '\'' :: '\'' :: rest) =
      some (List.replicate q '\'', rest) := by
  rw [replicate_append_three '\'' hq, readLiteralLines.eq_def]
  simp only [closeLines_quotes hrest hq]
  rfl

theorem readLiteralLines_quote {tail : List Char} (h : ∀ more, tail ≠ '\'' :: '\'' :: more) :
    readLiteralLines ('\'' :: tail) = prepend '\'' (readLiteralLines tail) := by
  rw [readLiteralLines.eq_def]
  simp

theorem readLiteralLines_plain {c : Char} (hq : c ≠ '\'') (h : isPlain c = true ∨ c = '\n')
    (rest : List Char) : readLiteralLines (c :: rest) = prepend c (readLiteralLines rest) := by
  have hplain : (isPlain c || c == '\n') = true := by simpa using h
  have hr : c ≠ '\r' := by
    rintro rfl
    simp [isPlain] at h
  rw [readLiteralLines.eq_def]
  simp only [hq, hr, hplain, if_true, if_false]

theorem hasTriple_tail {quote c : Char} {cs : List Char} (h : hasTriple quote (c :: cs) = false) :
    hasTriple quote cs = false := by
  match cs with
  | [] | [_] => rfl
  | d :: e :: cs => exact (Bool.or_eq_false_iff.mp h).2

/-- A text without three quotes in a row stands as it is.  Its last quotes are read together with
the closing ones. -/
theorem readLiteralLines_content (hrest : rest.head? ≠ some '\'') {cs : List Char}
    (hplain : ∀ c ∈ cs, isPlain c = true ∨ c = '\n') (htriple : hasTriple '\'' cs = false) :
    readLiteralLines (cs ++ '\'' :: '\'' :: '\'' :: rest) = some (cs, rest) := by
  induction cs with
  | nil => exact readLiteralLines_close hrest (Nat.zero_le 2)
  | cons c cs ih =>
      rw [List.forall_mem_cons] at hplain
      have hnext := ih hplain.2 (hasTriple_tail htriple)
      by_cases hquote : c = '\''
      · subst hquote
        match cs with
        | [] => exact readLiteralLines_close hrest (q := 1) (by omega)
        | d :: cs =>
          by_cases hd : d = '\''
          · subst hd
            match cs with
            | [] => exact readLiteralLines_close hrest (q := 2) (by omega)
            | e :: cs =>
              rw [List.cons_append, readLiteralLines_quote, hnext]
              · rfl
              · rintro more hmore
                simp_all [hasTriple]
          · rw [List.cons_append, readLiteralLines_quote, hnext]
            · rfl
            · rintro more hmore
              exact hd (List.cons.inj hmore).1
      · rw [List.cons_append, readLiteralLines_plain hquote hplain.1, hnext]
        rfl

/-! ### Whole texts -/

theorem choose_cases (cs : List Char) :
    (QuoteStyle.choose cs).suits cs = true ∨
      QuoteStyle.choose cs = .escaped ∧ cs.contains '\n' = false ∨
      QuoteStyle.choose cs = .escapedLines := by
  unfold QuoteStyle.choose
  cases hfound : QuoteStyle.byPreference.find? (·.suits cs) with
  | some style => exact .inl (by simpa using List.find?_some hfound)
  | none =>
      cases hbreak : cs.contains '\n' with
      | true => exact .inr (.inr rfl)
      | false => exact .inr (.inl ⟨rfl, rfl⟩)

theorem dropBreak_eq {cs : List Char} (h : ∀ c ∈ cs.head?, c ≠ '\n' ∧ c ≠ '\r') :
    dropBreak cs = cs := by
  unfold dropBreak
  split
  · exact absurd rfl (h '\n' rfl).1
  · exact absurd rfl (h '\r' rfl).2
  · rfl

/-- The content of a text over several lines begins behind the line break that is put in front. -/
theorem dropBreak_lines {cs content : List Char}
    (h : cs.contains '\n' = false → ∀ c ∈ content.head?, c ≠ '\n' ∧ c ≠ '\r') :
    dropBreak ((if cs.contains '\n' then ['\n'] else []) ++ content) = content := by
  cases hbreak : cs.contains '\n' with
  | true => rfl
  | false => exact dropBreak_eq (h hbreak)

theorem readQuoted_double {tail : List Char} (h : ∀ more, tail ≠ '"' :: '"' :: more) :
    readQuoted ('"' :: tail) = readEscaped tail := by
  unfold readQuoted
  split <;> simp_all

theorem readQuoted_single {tail : List Char} (h : ∀ more, tail ≠ '\'' :: '\'' :: more) :
    readQuoted ('\'' :: tail) = readLiteral tail := by
  unfold readQuoted
  split <;> simp_all

theorem suits_of_choose {cs : List Char} {style : QuoteStyle} (h : QuoteStyle.choose cs = style)
    (hliteral : style = .literal ∨ style = .literalLines) : style.suits cs = true := by
  subst h
  rcases choose_cases cs with hsuits | ⟨hescaped, -⟩ | hlines
  · exact hsuits
  · simp [hescaped] at hliteral
  · simp [hlines] at hliteral

theorem ne_break_of_isPlain {c : Char} (h : isPlain c = true) : c ≠ '\n' ∧ c ≠ '\r' := by
  constructor <;> (rintro rfl; simp [isPlain] at h)

theorem quoted_eq {s : String} {style : QuoteStyle} (h : QuoteStyle.choose s.toList = style) :
    quoted s ++ rest = style.quotes ++ ((if s.toList.contains '\n' then ['\n'] else []) ++
      (style.content s.toList ++ (style.quotes ++ rest))) := by
  simp [quoted, h]

theorem readQuoted_escaped {s : String} (h : QuoteStyle.choose s.toList = .escaped)
    (hrest : rest.head? ≠ some '"') : readQuoted (quoted s ++ rest) = some (s.toList, rest) := by
  have hline : s.toList.contains '\n' = false := by
    rcases choose_cases s.toList with hsuits | ⟨-, hline⟩ | hlines
    · rw [h] at hsuits
      simp_all [QuoteStyle.suits]
    · exact hline
    · rw [h] at hlines
      cases hlines
  rw [quoted_eq h, hline]
  change readQuoted ('"' :: (s.toList.flatMap escaped ++ '"' :: rest)) = _
  rw [readQuoted_double, readEscaped_content]
  intro more hmore
  cases hs : s.toList with
  | nil =>
      rw [hs] at hmore
      exact hrest (by rw [(List.cons.inj hmore).2]; rfl)
  | cons c cs =>
      rw [hs, List.flatMap_cons, List.append_assoc] at hmore
      exact head?_escaped_ne_quote c _ (by rw [hmore]; rfl)

theorem readQuoted_literal {s : String} (h : QuoteStyle.choose s.toList = .literal)
    (hrest : rest.head? ≠ some '\'') : readQuoted (quoted s ++ rest) = some (s.toList, rest) := by
  have hsuits := suits_of_choose h (.inl rfl)
  simp only [QuoteStyle.suits, Bool.and_eq_true, List.all_eq_true, Bool.or_eq_true, beq_iff_eq,
    Bool.not_eq_true', List.contains_eq_mem, decide_eq_false_iff_not] at hsuits
  obtain ⟨hplain, hquote, hline⟩ := hsuits
  have hplain' : ∀ c ∈ s.toList, isPlain c = true := fun c hc =>
    (hplain c hc).resolve_right fun hbreak => hline (hbreak ▸ hc)
  have hflat : s.toList.contains '\n' = false := by simpa using hline
  rw [quoted_eq h, hflat]
  change readQuoted ('\'' :: (s.toList ++ '\'' :: rest)) = _
  rw [readQuoted_single, readLiteral_content hplain' hquote]
  intro more hmore
  cases hs : s.toList with
  | nil =>
      rw [hs] at hmore
      exact hrest (by rw [(List.cons.inj hmore).2]; rfl)
  | cons c cs =>
      rw [hs] at hmore hquote
      exact hquote (by rw [(List.cons.inj hmore).1]; exact List.mem_cons_self)

theorem readQuoted_escapedLines {s : String} (h : QuoteStyle.choose s.toList = .escapedLines)
    (hrest : rest.head? ≠ some '"') : readQuoted (quoted s ++ rest) = some (s.toList, rest) := by
  rw [quoted_eq h]
  change readEscapedLines false (dropBreak ((if s.toList.contains '\n' then ['\n'] else []) ++
    (escapedLines 0 s.toList ++ '"' :: '"' :: '"' :: rest))) = _
  rw [dropBreak_lines]
  · exact readEscapedLines_content hrest s.toList (Nat.zero_le 2)
  intro hflat d hd
  cases hs : s.toList with
  | nil =>
      rw [hs] at hd
      cases hd
      decide
  | cons c cs =>
      have hbreak : c ≠ '\n' := by
        rintro rfl
        simp [hs] at hflat
      rw [hs, escapedLines, if_neg hbreak] at hd
      split at hd
      · cases hd
        decide
      · obtain ⟨first, hfirst, -, hplain⟩ := head?_escaped c
          (escapedLines 0 cs ++ '"' :: '"' :: '"' :: rest)
        rw [List.append_assoc, hfirst] at hd
        cases hd
        exact ne_break_of_isPlain hplain

theorem readQuoted_literalLines {s : String} (h : QuoteStyle.choose s.toList = .literalLines)
    (hrest : rest.head? ≠ some '\'') : readQuoted (quoted s ++ rest) = some (s.toList, rest) := by
  have hsuits := suits_of_choose h (.inr rfl)
  simp only [QuoteStyle.suits, Bool.and_eq_true, List.all_eq_true, Bool.or_eq_true, beq_iff_eq,
    Bool.not_eq_true'] at hsuits
  obtain ⟨hplain, htriple⟩ := hsuits
  rw [quoted_eq h]
  change readLiteralLines (dropBreak ((if s.toList.contains '\n' then ['\n'] else []) ++
    (s.toList ++ '\'' :: '\'' :: '\'' :: rest))) = _
  rw [dropBreak_lines]
  · exact readLiteralLines_content hrest hplain htriple
  intro hflat d hd
  cases hs : s.toList with
  | nil =>
      rw [hs] at hd
      cases hd
      decide
  | cons c cs =>
      have hbreak : c ≠ '\n' := by
        rintro rfl
        simp [hs] at hflat
      rw [hs] at hd
      cases hd
      exact ne_break_of_isPlain ((hplain d (by simp [hs])).resolve_right hbreak)

/-- **A text is read back from its quoted form**, in whatever way it is quoted. -/
theorem readQuoted_quoted (s : String) (hrest : Unquoted rest) :
    readQuoted (quoted s ++ rest) = some (s.toList, rest) := by
  have hdouble : rest.head? ≠ some '"' := fun h => (hrest _ h).1 rfl
  have hsingle : rest.head? ≠ some '\'' := fun h => (hrest _ h).2 rfl
  cases hstyle : QuoteStyle.choose s.toList with
  | escaped => exact readQuoted_escaped hstyle hdouble
  | literal => exact readQuoted_literal hstyle hsingle
  | escapedLines => exact readQuoted_escapedLines hstyle hdouble
  | literalLines => exact readQuoted_literalLines hstyle hsingle

end reading

end Toml

end RecordFilter
