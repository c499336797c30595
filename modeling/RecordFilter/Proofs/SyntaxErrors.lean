import Mathlib.Data.List.Nodup
import RecordFilter.Proofs.Tiling

/-! # Where a filter stops being grammatical

The parser complains about the first token that no continuation could make grammatical, and names
the kinds of token that could stand there instead.  A `Sentence` is a list of tokens that the
grammar admits, with the end of the input as its last token, and `MayFollow ts k` says that some
sentence begins with `ts` and a token of the kind `k`.

Every state that the parser reaches can still be completed (`State.exists_finish`): what is begun
is finished with some tokens, and then every group is closed.  Therefore the kinds that a state
expects are those that may follow the tokens read so far (`mayFollow_iff`), and a run stops only in
front of a token that is not among them (`State.exists_stop_of_run`).  The end of the input within
a group, behind an expression, is reported as a missing parenthesis (`endsInGroup_iff`). -/

namespace RecordFilter

/-! ### Sentences and their beginnings -/

/-- The tokens of an expression and the end of the input. -/
def Sentence (us : List Token) : Prop :=
  ∃ ts t e, us = ts ++ [t] ∧ t.kind = .endOfInput ∧ Derives .expression ts e

/-- Some sentence begins with the tokens `ts` and a token of the kind `k`. -/
def MayFollow (ts : List Token) (k : TokenKind) : Prop :=
  ∃ t us, t.kind = k ∧ Sentence (ts ++ t :: us)

/-- The tokens end with an expression behind a left parenthesis, which nothing closes. -/
def EndsInGroup (ts : List Token) : Prop :=
  ∃ us p vs e, ts = us ++ p :: vs ∧ p.kind = .leftParen ∧ Derives .expression vs e

/-! ### The names of kinds -/

/-- Every kind of token. -/
def TokenKind.all : List TokenKind :=
  [.connective .and, .connective .or, .comparator .eq, .comparator .ne, .comparator .gt,
    .comparator .lt, .identifier, .literal .decimal, .literal .text, .literal .date,
    .literal .time, .leftParen, .rightParen, .endOfInput]

theorem TokenKind.mem_all (k : TokenKind) : k ∈ all := by
  cases k with
  | connective op => cases op <;> simp [all]
  | comparator op => cases op <;> simp [all]
  | literal shape => cases shape <;> simp [all]
  | _ => simp [all]

theorem TokenKind.label_injective : Function.Injective label := by
  intro j k h
  have hn : (all.map label).Nodup := by decide
  exact List.inj_on_of_nodup_map hn (mem_all j) (mem_all k) h

/-! ### Expected kinds -/

namespace State

theorem take?_isSome_iff (s : State) {t : Token} (ht : t.kind ≠ .endOfInput) :
    (s.take? t).isSome = true ↔ t.kind ∈ s.expected := by
  obtain ⟨stage, group, outer⟩ := s
  cases hk : t.kind with
  | endOfInput => exact absurd hk ht
  | connective op => cases op <;> cases stage <;> cases outer <;> simp [take?, expected, hk]
  | comparator op =>
      cases op <;> cases stage <;> cases outer <;> simp [take?, expected, hk, Comparator.all]
  | literal shape => cases shape <;> cases stage <;> cases outer <;> simp [take?, expected, hk]
  | identifier | leftParen | rightParen =>
      cases stage <;> cases outer <;> simp [take?, expected, hk]

theorem finish?_isSome_iff (s : State) :
    s.finish?.isSome = true ↔ .endOfInput ∈ s.expected := by
  obtain ⟨stage, group, outer⟩ := s
  cases stage <;> cases outer <;> simp [finish?, expected]

/-- Behind an atom the parser can close every group. -/
theorem exists_finish_of_operand (atom : Expr) (group : Pending) (outer : List Pending) :
    ∃ ts s e, takes ⟨.operand atom, group, outer⟩ ts = some s ∧ s.finish? = some e := by
  induction outer generalizing atom group with
  | nil => exact ⟨[], _, _, rfl, rfl⟩
  | cons g gs ih =>
      obtain ⟨ts, s, e, hs, he⟩ := ih (group.close atom) g
      exact ⟨⟨.rightParen, ")", 0⟩ :: ts, s, e, hs, he⟩

theorem exists_finish (s : State) : ∃ ts s' e, s.takes ts = some s' ∧ s'.finish? = some e := by
  obtain ⟨stage, group, outer⟩ := s
  let field : Token := ⟨.identifier, "a", 0⟩
  let operator : Token := ⟨.comparator .eq, "eq", 0⟩
  let number : Token := ⟨.literal .decimal, "0", 0⟩
  cases stage with
  | atom =>
      obtain ⟨ts, s, e, hs, he⟩ := exists_finish_of_operand
        (.comparison "a" .eq (.ofToken number "a")) group outer
      exact ⟨field :: operator :: number :: ts, s, e, hs, he⟩
  | comparator f =>
      obtain ⟨ts, s, e, hs, he⟩ := exists_finish_of_operand
        (.comparison f .eq (.ofToken number f)) group outer
      exact ⟨operator :: number :: ts, s, e, hs, he⟩
  | literal f op =>
      obtain ⟨ts, s, e, hs, he⟩ := exists_finish_of_operand
        (.comparison f op (.ofToken number f)) group outer
      exact ⟨number :: ts, s, e, hs, he⟩
  | operand atom => exact exists_finish_of_operand atom group outer

theorem exists_stop_of_run {s : State} {ts : List Token} {t : Token} {err : FilterError}
    (hts : ∀ u ∈ ts, u.kind ≠ .endOfInput) (ht : t.kind = .endOfInput)
    (h : s.run (ts ++ [t]) = .error err) : ∃ before u after s', ts ++ [t] = before ++ u :: after ∧
      s.takes before = some s' ∧ u.kind ∉ s'.expected ∧ err = s'.failure u := by
  induction ts generalizing s with
  | nil =>
      rw [List.nil_append, run, if_pos ht, ended] at h
      refine ⟨[], t, [], s, rfl, rfl, ?_, ?_⟩
      · rw [ht, ← finish?_isSome_iff]
        intro hf
        obtain ⟨e, hf⟩ := Option.isSome_iff_exists.mp hf
        rw [hf] at h
        cases h
      · split at h
        · cases h
        · exact (Except.error.inj h).symm
  | cons u ts ih =>
      have hu : u.kind ≠ .endOfInput := hts u List.mem_cons_self
      rw [List.cons_append, run, if_neg hu] at h
      cases hs : s.take? u with
      | none =>
          rw [hs] at h
          refine ⟨[], u, ts ++ [t], s, rfl, rfl, ?_, (Except.error.inj h).symm⟩
          rw [← take?_isSome_iff s hu, hs]
          exact Bool.false_ne_true
      | some s₁ =>
          rw [hs] at h
          obtain ⟨before, v, after, s', he, hb, hv, herr⟩ :=
            ih (fun v hv => hts v (List.mem_cons_of_mem _ hv)) h
          refine ⟨u :: before, v, after, s', by rw [List.cons_append, he]; rfl, ?_, hv, herr⟩
          rw [takes_cons, hs, Option.bind_some, hb]

end State

/-! ### What may follow -/

section reached
variable {before : List Token} {s : State} (h : State.initial.takes before = some s)
include h

theorem derives_of_takes {ts : List Token} {s' : State} {e : Expr} (hs : s.takes ts = some s')
    (he : s'.finish? = some e) : Derives .expression (before ++ ts) e := by
  have ht : State.initial.takes (before ++ ts) = some s' := by
    rw [State.takes_append, h, Option.bind_some, hs]
  exact (State.takes_spells State.initial_spells ht).derives he

theorem exists_sentence : ∃ us, Sentence (before ++ us) := by
  obtain ⟨ts, s', e, hs, he⟩ := s.exists_finish
  exact ⟨ts ++ [.ending 0], before ++ ts, .ending 0, e, by rw [List.append_assoc], rfl,
    derives_of_takes h hs he⟩

theorem mayFollow_of_mem {k : TokenKind} (hk : k ∈ s.expected) : MayFollow before k := by
  by_cases hend : k = .endOfInput
  · subst hend
    obtain ⟨e, he⟩ := Option.isSome_iff_exists.mp (s.finish?_isSome_iff.mpr hk)
    have hd := derives_of_takes h (State.takes_nil s) he
    rw [List.append_nil] at hd
    exact ⟨.ending 0, [], rfl, before, .ending 0, e, rfl, rfl, hd⟩
  · let t : Token := ⟨k, "", 0⟩
    obtain ⟨s₁, h₁⟩ := Option.isSome_iff_exists.mp ((s.take?_isSome_iff (t := t) hend).mpr hk)
    obtain ⟨ts, s', e, hs, he⟩ := s₁.exists_finish
    have hs' : s.takes (t :: ts) = some s' := by
      rw [State.takes_cons, h₁, Option.bind_some, hs]
    exact ⟨t, ts ++ [.ending 0], rfl, before ++ t :: ts, .ending 0, e, by simp, rfl,
      derives_of_takes h hs' he⟩

theorem mem_of_mayFollow {k : TokenKind} (hk : MayFollow before k) : k ∈ s.expected := by
  obtain ⟨t, us, rfl, ts, u, e, he, hu, hd⟩ := hk
  obtain ⟨group, a, hts, -⟩ := hd.reaches []
  change State.initial.takes ts = _ at hts
  rcases List.eq_nil_or_concat us with rfl | ⟨us, v, rfl⟩
  · -- the end of the input follows, and the tokens read so far are an expression
    obtain ⟨rfl, ht⟩ := List.append_inj' he rfl
    obtain rfl := (List.cons.inj ht).1
    rw [h] at hts
    cases hts
    rw [hu, ← State.finish?_isSome_iff]
    rfl
  · rw [List.concat_eq_append, ← List.cons_append, ← List.append_assoc] at he
    obtain ⟨rfl, -⟩ := List.append_inj' he rfl
    rw [State.takes_append, h, Option.bind_some, State.takes_cons, Option.bind_eq_some_iff] at hts
    obtain ⟨s₁, h₁, -⟩ := hts
    have ht : t.kind ≠ .endOfInput := hd.ne_ending t (by simp)
    rw [← s.take?_isSome_iff ht, h₁]
    rfl

theorem mayFollow_iff {k : TokenKind} : MayFollow before k ↔ k ∈ s.expected :=
  ⟨mem_of_mayFollow h, mayFollow_of_mem h⟩

/-- The tokens read so far end with an expression in a group exactly if the parser is behind an
atom and has a group to close. -/
theorem endsInGroup_iff :
    EndsInGroup before ↔ ∃ atom g gs, s.stage = .operand atom ∧ s.outer = g :: gs := by
  constructor
  · rintro ⟨us, p, vs, e, rfl, hp, hd⟩
    rw [State.takes_append, Option.bind_eq_some_iff] at h
    obtain ⟨s₁, -, h₁⟩ := h
    rw [State.takes_cons, Option.bind_eq_some_iff] at h₁
    obtain ⟨s₂, hs₂, h₂⟩ := h₁
    obtain ⟨stage, group, outer⟩ := s₁
    cases stage <;> simp [State.take?, hp] at hs₂
    subst hs₂
    obtain ⟨g, a, hr, -⟩ := hd.reaches (group :: outer)
    rw [h₂] at hr
    cases hr
    exact ⟨a, group, outer, rfl, rfl⟩
  · rintro ⟨atom, g, gs, hstage, houter⟩
    obtain ⟨stage, group, outer⟩ := s
    simp only at hstage houter
    subst hstage houter
    have hsp : State.Spells _ before := State.takes_spells State.initial_spells h
    obtain ⟨ho, hg, hs⟩ := hsp
    cases ho with
    | @within _ _ us vs p _ _ hp =>
        cases hs with
        | operand hd => exact ⟨us ++ vs, p, _, _, by simp, hp, hg.close hd⟩

/-- The error for a token reports a missing parenthesis at the end of the input within a group,
and otherwise the kinds that may follow. -/
theorem failure_of_takes (t : Token) :
    (t.kind = .endOfInput ∧ EndsInGroup before ∧ s.failure t = .missing .rightParen t) ∨
      ¬ (t.kind = .endOfInput ∧ EndsInGroup before) ∧ s.failure t = .mismatched s.expected t := by
  rw [endsInGroup_iff h, State.failure]
  split
  · next atom g gs hstage houter ht => exact .inl ⟨ht, ⟨atom, g, gs, hstage, houter⟩, rfl⟩
  · next hno =>
      refine .inr ⟨?_, rfl⟩
      rintro ⟨ht, atom, g, gs, hstage, houter⟩
      exact hno atom g gs hstage houter ht

end reached

/-! ### The places of tokens -/

theorem eq_of_position_eq {input : String} {before after : List Token} {t u : Token}
    (h : tokenize input = .ok (before ++ t :: after)) (hu : u ∈ before ++ t :: after)
    (hp : u.position = t.position) : u = t := by
  have hlt := (tokenize_eq_ok_iff.mp h).positions_lt
  obtain ⟨-, hr, hb⟩ := List.pairwise_append.mp hlt
  rcases List.mem_append.mp hu with hu | hu
  · have := hb u hu t List.mem_cons_self
    omega
  · rcases List.mem_cons.mp hu with rfl | hu
    · rfl
    · have := (List.pairwise_cons.mp hr).1 u hu
      omega

theorem parse_eq_ok_iff_sentence {input : String} {us : List Token}
    (hu : tokenize input = .ok us) : (∃ e, Expr.parse input = .ok e) ↔ Sentence us := by
  constructor
  · rintro ⟨e, he⟩
    obtain ⟨ts, t, ht, hd⟩ := exists_derives_of_parse he
    obtain rfl := Except.ok.inj (hu.symm.trans ht)
    obtain ⟨hend, -⟩ := tokenize_eq_ok ht
    exact ⟨ts, t, e, rfl, by rw [hend]; rfl, hd⟩
  · rintro ⟨ts, t, e, rfl, -, hd⟩
    exact ⟨e, (parse_eq_ok_iff_of_tokenize hu).mpr hd⟩

/-- **A syntax error is reported at the first impossible token.**  A text with tokens has a tree
exactly if they are a sentence.  If it has none, let `t` be the token that the error shows, which
its place identifies.  The tokens before `t` begin a sentence, but none in which a token of the
kind of `t` follows.  Where the input ends in a group behind a complete expression, the error
reports the missing parenthesis.  Otherwise it names the kinds of token that may follow in a
sentence, and no others. -/
theorem parse_error_first_impossible {input : String} {us : List Token}
    (hu : tokenize input = .ok us) :
    ((∃ e, Expr.parse input = .ok e) ↔ Sentence us) ∧
    ∀ err, Expr.parse input = .error err →
      ∃ before t after, us = before ++ t :: after ∧ (∀ u ∈ us, u.position = t.position → u = t) ∧
        (∃ vs, Sentence (before ++ vs)) ∧ ¬ MayFollow before t.kind ∧
        ((∃ expected, err = .mismatched expected t ∧
            err.message = "invalid filter expression. Details: mismatched input '" ++ t.shown
              ++ "' expecting " ++ FilterError.expectation expected ∧
            (∀ k : TokenKind, k.label ∈ expected.map TokenKind.label ↔ MayFollow before k) ∧
            ¬ (t.kind = .endOfInput ∧ EndsInGroup before)) ∨
          err = .missing .rightParen t ∧
            err.message = "invalid filter expression. Details: missing ')' at '" ++ t.shown ++ "'" ∧
            t.kind = .endOfInput ∧ EndsInGroup before) := by
  refine ⟨parse_eq_ok_iff_sentence hu, fun err he => ?_⟩
  obtain ⟨ts, s, e, s', hr, hn, ht, rfl⟩ := Cursor.tokens_eq_ok_iff.mp hu
  rw [parse_of_tokenize hu] at he
  obtain ⟨before, t, after, s₁, hsplit, hb, hk, rfl⟩ := State.exists_stop_of_run hr.ne_ending ht he
  rw [hsplit] at hu ⊢
  refine ⟨before, t, after, rfl, fun u => eq_of_position_eq hu, exists_sentence hb, ?_, ?_⟩
  · rwa [mayFollow_iff hb]
  · rcases failure_of_takes hb t with ⟨ht, hg, hf⟩ | ⟨hno, hf⟩
    · exact .inr ⟨hf, by rw [hf]; rfl, ht, hg⟩
    · refine .inl ⟨s₁.expected, hf, by rw [hf]; rfl, fun k => ?_, hno⟩
      rw [mayFollow_iff hb, List.mem_map_of_injective TokenKind.label_injective]

set_option maxRecDepth 2000 in
/-- Behind a group that is closed, another right parenthesis can stand in no sentence. -/
theorem parse_error_closed_twice : ∃ before after,
    tokenize "(a eq 1))" = .ok (before ++ ⟨.rightParen, ")", 8⟩ :: after) ∧
      Expr.parse "(a eq 1))" = .error (.mismatched
        [.endOfInput, .connective .and, .connective .or] ⟨.rightParen, ")", 8⟩) ∧
      ¬ MayFollow before .rightParen ∧
      ∀ k : TokenKind, k.label ∈ ["<EOF>", "AND", "OR"] ↔ MayFollow before k := by
  have h₁ : Cursor.next ⟨"(a eq 1))".toList, 0⟩
      = (.ok ⟨.leftParen, "(", 0⟩, ⟨"a eq 1))".toList, 1⟩) := rfl
  have h₂ : Cursor.next ⟨"a eq 1))".toList, 1⟩
      = (.ok ⟨.identifier, "a", 1⟩, ⟨" eq 1))".toList, 2⟩) := rfl
  have h₃ : Cursor.next ⟨" eq 1))".toList, 2⟩
      = (.ok ⟨.comparator .eq, "eq", 3⟩, ⟨" 1))".toList, 5⟩) := rfl
  have h₄ : Cursor.next ⟨" 1))".toList, 5⟩
      = (.ok ⟨.literal .decimal, "1", 6⟩, ⟨"))".toList, 7⟩) := rfl
  have h₅ : Cursor.next ⟨"))".toList, 7⟩ = (.ok ⟨.rightParen, ")", 7⟩, ⟨")".toList, 8⟩) := rfl
  have h₆ : Cursor.next ⟨")".toList, 8⟩ = (.ok ⟨.rightParen, ")", 8⟩, ⟨[], 9⟩) := rfl
  have h₇ : Cursor.next ⟨[], 9⟩ = (.ok (.ending 9), ⟨[], 9⟩) := rfl
  have hu : tokenize "(a eq 1))" = .ok [⟨.leftParen, "(", 0⟩, ⟨.identifier, "a", 1⟩,
      ⟨.comparator .eq, "eq", 3⟩, ⟨.literal .decimal, "1", 6⟩, ⟨.rightParen, ")", 7⟩,
      ⟨.rightParen, ")", 8⟩, .ending 9] :=
    Cursor.tokens_eq_ok_iff.mpr ⟨_, _, _, _, .cons h₁ (by decide) (.cons h₂ (by decide)
      (.cons h₃ (by decide) (.cons h₄ (by decide) (.cons h₅ (by decide)
      (.cons h₆ (by decide) .nil))))), h₇, rfl, rfl⟩
  have he : Expr.parse "(a eq 1))" = .error (.mismatched
      [.endOfInput, .connective .and, .connective .or] ⟨.rightParen, ")", 8⟩) := by
    rw [parse_of_tokenize hu]
    rfl
  obtain ⟨before, t, after, hs, -, -, hk, ⟨expected, herr, -, hf, -⟩ | ⟨herr, -⟩⟩ :=
    (parse_error_first_impossible hu).2 _ he
  · cases herr
    exact ⟨before, after, by rw [hu, hs], he, hk, hf⟩
  · cases herr

end RecordFilter
