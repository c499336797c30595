import RecordFilter.Proofs.LexicalFaults

/-! # Steps of the cursor past errors

The cursor can be asked for the next token again and again, also after an error and behind the end
of the input.  `Cursor.Step` says all that a step can do.  Each one answers as it would in front of
what is left of the text alone, but for the places (`Cursor.next_shift`), and there are two kinds
of answers: one that `Advances` comes with a shorter text, and one that is `Final` comes again for
ever.

As a text has only so many bytes, a final answer comes after at most as many steps
(`Cursor.exists_final`), and the tokens of the text are the answers up to the first that is an
error or the end (`steps_of_text`). -/

namespace RecordFilter

/-! ### Places -/

/-- The token, standing `n` bytes further on. -/
def Token.shift (n : Nat) (t : Token) : Token :=
  { t with position := t.position + n }

/-- The error of a text that stands `n` bytes further on. -/
def FilterError.shift (n : Nat) : FilterError → FilterError
  | .unrecognized text position => .unrecognized text (position + n)
  | .mismatched expected found => .mismatched expected (found.shift n)
  | .missing expected found => .missing expected (found.shift n)
  | err => err

namespace Cursor

/-- The cursor in front of the same text, which stands `n` bytes further on. -/
def shift (n : Nat) (s : Cursor) : Cursor :=
  { s with offset := s.offset + n }

/-- The outcome of a step in a text that stands `n` bytes further on. -/
def shiftStep (n : Nat) :
    Except FilterError Token × Cursor → Except FilterError Token × Cursor
  | (.ok t, s) => (.ok (t.shift n), s.shift n)
  | (.error err, s) => (.error (err.shift n), s.shift n)

/-- A step depends on the place of the text only in the places that it tells. -/
theorem next_shift (s : Cursor) (n : Nat) : (s.shift n).next = shiftStep n s.next := by
  have hc (a : Nat) : s.offset + n + a = s.offset + a + n := Nat.add_right_comm _ _ _
  have hd (a b : Nat) : s.offset + a + n + b = s.offset + a + b + n := Nat.add_right_comm _ _ _
  simp only [next, shift, hc]
  cases front (s.rest.dropWhile isBlank) with
  | token => simp only [shiftStep, Token.shift, shift, hd]
  | fault => simp only [shiftStep, FilterError.shift, shift, hd]
  | done => rfl

theorem shift_ofString (s : Cursor) : (ofString (String.ofList s.rest)).shift s.offset = s := by
  simp [ofString, shift]

/-! ### What a step can do -/

/-- `Step s answer s'`: what a step at the cursor `s` answers, and the cursor behind it. -/
inductive Step : Cursor → Except FilterError Token → Cursor → Prop
  | token {offset : Nat} {blanks lexeme after : List Char} {kind : TokenKind}
      (hb : AllBlank blanks) (hl : Lexeme kind lexeme) :
      Step ⟨blanks ++ (lexeme ++ after), offset⟩
        (.ok ⟨kind, String.ofList lexeme, offset + byteLength blanks⟩)
        ⟨after, offset + byteLength blanks + byteLength lexeme⟩
  | fault {offset : Nat} {blanks rest text after : List Char} (hb : AllBlank blanks)
      (hf : Fault rest text after) :
      Step ⟨blanks ++ rest, offset⟩
        (.error (.unrecognized (String.ofList text) (offset + byteLength blanks)))
        ⟨after, offset + byteLength blanks + (byteLength rest - byteLength after)⟩
  | ending {offset : Nat} {blanks : List Char} (hb : AllBlank blanks) :
      Step ⟨blanks, offset⟩ (.ok (.ending (offset + byteLength blanks)))
        ⟨[], offset + byteLength blanks⟩

theorem step_next (s : Cursor) : Step s s.next.1 s.next.2 := by
  obtain ⟨cs, offset⟩ := s
  rcases hn : next ⟨cs, offset⟩ with ⟨err | t, s'⟩
  · obtain ⟨blanks, rest, text, hr, hb, hf, -⟩ := fault_of_next hn
    change cs = blanks ++ rest at hr
    subst hr
    rw [← hn, next_fault offset hb hf]
    exact .fault hb hf
  · by_cases ht : t.kind = .endOfInput
    · obtain ⟨hb, -⟩ := blank_of_next hn ht
      change AllBlank cs at hb
      rw [← hn, next_blanks offset hb]
      exact .ending hb
    · obtain ⟨blanks, lexeme, hb, hl, hs, -, hr⟩ := lexeme_of_next hn ht
      change cs = _ at hr
      subst hr
      rw [← hn, next_lexeme offset hb hl hs]
      exact .token hb hl

theorem Step.splits {s s' : Cursor} {answer : Except FilterError Token} (h : Step s answer s') :
    ∃ consumed, s.rest = consumed ++ s'.rest ∧ s'.offset = s.offset + byteLength consumed := by
  cases h with
  | @token offset blanks lexeme after kind hb hl =>
      refine ⟨blanks ++ lexeme, (List.append_assoc ..).symm, ?_⟩
      simp only [byteLength_append, Nat.add_assoc]
  | @ending offset blanks hb => exact ⟨blanks, (List.append_nil _).symm, rfl⟩
  | @fault offset blanks rest text after hb hf =>
      cases hf with
      | stranger => exact ⟨blanks, rfl, by simp⟩
      | minus =>
          refine ⟨blanks ++ ['-'], by simp, ?_⟩
          simp only [byteLength_append, byteLength_cons, byteLength_nil]
          omega
      | @unclosed cs _ =>
          refine ⟨blanks ++ '\'' :: cs, (List.append_nil _).symm, ?_⟩
          simp only [byteLength_append, byteLength_nil]
          omega

/-! ### Two kinds of answers -/

/-- The answers of the steps behind which less is left of the text: a token, a minus sign without a
number, and a quote that nothing closes. -/
inductive Advances : Except FilterError Token → Prop
  | token {t : Token} (h : t.kind ≠ .endOfInput) : Advances (.ok t)
  | minus (position : Nat) : Advances (.error (.unrecognized "-" position))
  | unclosed {cs : List Char} (h : '\'' ∉ cs) (position : Nat) :
      Advances (.error (.unrecognized (String.ofList ('\'' :: cs)) position))

/-- The answers after which every step answers the same: the end of the input, and a character
with which no token begins. -/
inductive Final : Except FilterError Token → Prop
  | ending (position : Nat) : Final (.ok (.ending position))
  | stranger {c : Char} (h : BeginsNothing c) (position : Nat) :
      Final (.error (.unrecognized (String.ofList [c]) position))

theorem Final.not_advances {answer : Except FilterError Token} (h : Final answer) :
    ¬ Advances answer := by
  intro h'
  cases h with
  | ending position =>
      cases h' with
      | token h => exact h rfl
  | @stranger c h position =>
      have hp := h.2.1
      generalize hx : String.ofList [c] = x at h'
      cases h' with
      | minus =>
          obtain rfl : c = '-' := by simpa using congrArg String.toList hx
          simp at hp
      | unclosed =>
          obtain rfl : c = '\'' := by
            have := congrArg String.toList hx
            simp only [String.toList_ofList, List.cons.injEq] at this
            exact this.1
          simp at hp

/-- A step makes the text shorter, or the next step repeats it. -/
theorem Step.outcome {s s' : Cursor} {answer : Except FilterError Token}
    (h : Step s answer s') : Advances answer ∧ byteLength s'.rest < byteLength s.rest ∨
      Final answer ∧ s'.next = (answer, s') := by
  cases h with
  | @token offset blanks lexeme after kind hb hl =>
      obtain ⟨c, cs, rfl, -⟩ := hl.exists_cons
      have hc := c.utf8Size_pos
      refine .inl ⟨.token hl.ne_ending, ?_⟩
      simp only [byteLength_append, byteLength_cons]
      omega
  | @ending offset blanks hb => exact .inr ⟨.ending _, next_blanks _ allBlank_nil⟩
  | @fault offset blanks rest text after hb hf =>
      cases hf with
      | @stranger c cs h =>
          refine .inr ⟨.stranger h _, ?_⟩
          have hf : Fault (c :: cs) [c] (c :: cs) := .stranger h
          simpa using next_fault (offset + byteLength blanks) allBlank_nil hf
      | minus h =>
          refine .inl ⟨.minus _, ?_⟩
          have hc := '-'.utf8Size_pos
          simp only [byteLength_append, byteLength_cons]
          omega
      | unclosed h =>
          refine .inl ⟨.unclosed h _, ?_⟩
          have hc := '\''.utf8Size_pos
          simp only [byteLength_append, byteLength_cons, byteLength_nil]
          omega

theorem byteLength_next_of_advances {s : Cursor} (h : Advances s.next.1) :
    byteLength s.next.2.rest < byteLength s.rest := by
  rcases s.step_next.outcome with ⟨-, hlt⟩ | ⟨hf, -⟩
  · exact hlt
  · exact absurd h hf.not_advances

theorem next_of_final {s : Cursor} (h : Final s.next.1) : s.next.2.next = s.next := by
  rcases s.step_next.outcome with ⟨ha, -⟩ | ⟨-, hn⟩
  · exact absurd ha h.not_advances
  · exact hn

/-! ### Many steps -/

/-- The cursor after `k` steps. -/
def stepped (s : Cursor) : Nat → Cursor
  | 0 => s
  | k + 1 => (s.stepped k).next.2

/-- What the step behind `k` other steps answers. -/
def answer (s : Cursor) (k : Nat) : Except FilterError Token :=
  (s.stepped k).next.1

variable (s : Cursor)

theorem stepped_succ' (k : Nat) : s.stepped (k + 1) = s.next.2.stepped k := by
  induction k with
  | zero => rfl
  | succ k ih => rw [stepped, ih, stepped]

theorem answer_succ' (k : Nat) : s.answer (k + 1) = s.next.2.answer k := by
  rw [answer, stepped_succ', answer]

theorem stepped_splits (k : Nat) : ∃ consumed, s.rest = consumed ++ (s.stepped k).rest ∧
    (s.stepped k).offset = s.offset + byteLength consumed := by
  induction k with
  | zero => exact ⟨[], rfl, rfl⟩
  | succ k ih =>
      obtain ⟨as, hr, ho⟩ := ih
      obtain ⟨bs, hr', ho'⟩ := (s.stepped k).step_next.splits
      refine ⟨as ++ bs, ?_, ?_⟩
      · rw [hr, hr', stepped, List.append_assoc]
      · rw [stepped, ho', ho, byteLength_append, Nat.add_assoc]

theorem answer_cases (k : Nat) : Advances (s.answer k) ∨ Final (s.answer k) :=
  (s.stepped k).step_next.outcome.imp And.left And.left

variable {s}

theorem stepped_of_final {k : Nat} (h : Final (s.answer k)) (i : Nat) :
    s.stepped (k + i + 1) = s.stepped (k + 1) := by
  induction i with
  | zero => rfl
  | succ i ih =>
      change (s.stepped (k + i + 1)).next.2 = (s.stepped k).next.2
      rw [ih]
      exact congrArg Prod.snd (next_of_final h)

theorem answer_of_final {k j : Nat} (h : Final (s.answer k)) (hj : k ≤ j) :
    s.answer j = s.answer k := by
  obtain ⟨i, rfl⟩ := Nat.exists_eq_add_of_le hj
  cases i with
  | zero => rfl
  | succ i =>
      change (s.stepped (k + i + 1)).next.1 = (s.stepped k).next.1
      rw [stepped_of_final h]
      exact congrArg Prod.fst (next_of_final h)

theorem byteLength_stepped_add_le {k : Nat} (h : ∀ j < k, Advances (s.answer j)) :
    byteLength (s.stepped k).rest + k ≤ byteLength s.rest := by
  induction k with
  | zero => exact Nat.le_refl _
  | succ k ih =>
      have hlt := byteLength_next_of_advances (h k (Nat.lt_succ_self k))
      have hle := ih fun j hj => h j (Nat.lt_succ_of_lt hj)
      rw [stepped]
      omega

variable (s)

/-- There is a final answer among the first ones, of which there is one more than the text has
bytes. -/
theorem exists_final : ∃ k ≤ byteLength s.rest, Final (s.answer k) := by
  by_contra hn
  have ha : ∀ j < byteLength s.rest + 1, Advances (s.answer j) := fun j hj =>
    (s.answer_cases j).resolve_right fun hf => hn ⟨j, Nat.lt_succ_iff.mp hj, hf⟩
  have := byteLength_stepped_add_le ha
  omega

/-- The tokens of a cursor are its answers up to the first that is an error or the end. -/
theorem tokens_eq_mapM_answer : ∃ k,
    (∀ j < k, ∃ t, s.answer j = .ok t ∧ t.kind ≠ .endOfInput) ∧
      (∀ t, s.answer k = .ok t → t.kind = .endOfInput) ∧
      s.tokens = (List.range (k + 1)).mapM s.answer := by
  fun_induction tokens s with
  | case1 s err s' hn =>
      have ha : s.answer 0 = .error err := congrArg Prod.fst hn
      refine ⟨0, by simp, fun t ht => ?_, ?_⟩
      · rw [ha] at ht
        cases ht
      · simp only [Nat.zero_add, List.range_one, List.mapM_cons, ha]
        rfl
  | case2 s t s' hn ht =>
      have ha : s.answer 0 = .ok t := congrArg Prod.fst hn
      refine ⟨0, by simp, fun u hu => ?_, ?_⟩
      · rw [ha] at hu
        cases hu
        exact ht
      · simp only [Nat.zero_add, List.range_one, List.mapM_cons, ha]
        rfl
  | case3 s t s' hn ht ih =>
      have ha : s.answer 0 = .ok t := congrArg Prod.fst hn
      have ha' (j : Nat) : s.answer (j + 1) = s'.answer j := by rw [answer_succ', hn]
      obtain ⟨k, hk, he, hm⟩ := ih
      refine ⟨k + 1, fun j hj => ?_, fun u hu => he u (by rwa [← ha']), ?_⟩
      · cases j with
        | zero => exact ⟨t, ha, ht⟩
        | succ j =>
            rw [ha']
            exact hk j (Nat.lt_of_succ_lt_succ hj)
      · have hr : List.range (k + 1 + 1) = 0 :: (List.range (k + 1)).map Nat.succ :=
          List.range_succ_eq_map
        have hf : s.answer ∘ Nat.succ = s'.answer := funext ha'
        rw [hm, hr, List.mapM_cons, List.mapM_map, ha, hf]
        cases (List.range (k + 1)).mapM s'.answer <;> rfl

end Cursor

/-- **A text can be read past its errors.**  After any number of steps a part of the text has been
consumed, and the next step is that in front of the rest alone, with its places shifted by the
bytes of this part.  An answer that advances leaves a shorter rest, a final one comes again in all
later steps, and there are no others.  From the step on whose number is the number of bytes of
the text all answers are the same, and the tokens of the text are the answers up to the first that
is an error or the end. -/
theorem steps_of_text (input : String) :
    (∀ k, ∃ consumed, input.toList = consumed ++ ((Cursor.ofString input).stepped k).rest ∧
      ((Cursor.ofString input).stepped k).offset = byteLength consumed ∧
      ((Cursor.ofString input).stepped k).next = Cursor.shiftStep (byteLength consumed)
        (Cursor.ofString (String.ofList ((Cursor.ofString input).stepped k).rest)).next) ∧
    (∀ k, Cursor.Advances ((Cursor.ofString input).answer k) ∨
      Cursor.Final ((Cursor.ofString input).answer k)) ∧
    (∀ k, Cursor.Advances ((Cursor.ofString input).answer k) →
      byteLength ((Cursor.ofString input).stepped (k + 1)).rest <
        byteLength ((Cursor.ofString input).stepped k).rest) ∧
    (∀ k, Cursor.Final ((Cursor.ofString input).answer k) → ∀ j, k ≤ j →
      (Cursor.ofString input).answer j = (Cursor.ofString input).answer k) ∧
    (∀ j, input.utf8ByteSize ≤ j → (Cursor.ofString input).answer j =
      (Cursor.ofString input).answer input.utf8ByteSize) ∧
    ∃ k ≤ input.utf8ByteSize,
      (∀ j < k, ∃ t, (Cursor.ofString input).answer j = .ok t ∧ t.kind ≠ .endOfInput) ∧
      (∀ t, (Cursor.ofString input).answer k = .ok t → t.kind = .endOfInput) ∧
      tokenize input = (List.range (k + 1)).mapM (Cursor.ofString input).answer := by
  have hsize : byteLength (Cursor.ofString input).rest = input.utf8ByteSize :=
    byteLength_toList input
  refine ⟨fun k => ?_, Cursor.answer_cases _, fun k => Cursor.byteLength_next_of_advances,
    fun k h j => Cursor.answer_of_final h, fun j hj => ?_, ?_⟩
  · obtain ⟨consumed, hr, ho⟩ := (Cursor.ofString input).stepped_splits k
    have ho' : ((Cursor.ofString input).stepped k).offset = byteLength consumed := by
      rw [ho]
      exact Nat.zero_add _
    refine ⟨consumed, hr, ho', ?_⟩
    rw [← Cursor.next_shift, ← ho', Cursor.shift_ofString]
  · obtain ⟨k, hk, hf⟩ := (Cursor.ofString input).exists_final
    rw [hsize] at hk
    rw [Cursor.answer_of_final hf hk, Cursor.answer_of_final hf (Nat.le_trans hk hj)]
  · obtain ⟨k, hk, he, hm⟩ := (Cursor.ofString input).tokens_eq_mapM_answer
    refine ⟨k, ?_, hk, he, hm⟩
    have hle := Cursor.byteLength_stepped_add_le fun j hj => by
      obtain ⟨t, ht, hne⟩ := hk j hj
      rw [ht]
      exact .token hne
    omega

/-- Behind a lone minus sign reading goes on, up to a character with which no token begins. -/
theorem steps_of_text_minus :
    (Cursor.ofString "- §7").answer 0 = .error (.unrecognized "-" 0) ∧
    byteLength ((Cursor.ofString "- §7").stepped 1).rest < byteLength "- §7".toList ∧
    ∀ j, 1 ≤ j → (Cursor.ofString "- §7").answer j = .error (.unrecognized "§" 2) := by
  have h₀ : (Cursor.ofString "- §7").answer 0 = .error (.unrecognized "-" 0) := rfl
  have h₁ : (Cursor.ofString "- §7").answer 1 = .error (.unrecognized (String.ofList ['§']) 2) := by
    decide +kernel
  obtain ⟨-, -, ha, hf, -⟩ := steps_of_text "- §7"
  refine ⟨h₀, ha 0 (by rw [h₀]; exact .minus 0), fun j hj => ?_⟩
  have hs : BeginsNothing '§' := by decide +kernel
  rw [hf 1 (by rw [h₁]; exact .stranger hs 2) j hj, h₁]

end RecordFilter
