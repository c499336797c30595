import RecordFilter.Expr
import RecordFilter.Proofs.Tokens

/-! # The grammar of filters

The language that `Expr.parse` reads, as a relation between tokens and trees in which the parser
does not occur:

* `expression ::= conjunction (OR conjunction)*`
* `conjunction ::= atom (AND atom)*`
* `atom ::= '(' expression ')' | IDENTIFIER comparator literal`

In `Derives` a repetition is left recursive, so that a derivation also says how its operands
group: `OR` binds weakest, both connectives group to the left, and parentheses leave no node.

The parser is a pushdown machine.  `State.Spells s ts` says which tokens `ts` lead to the state
`s`; a step keeps it (`State.take?_spells`), hence so does a run (`State.takes_spells`), and at the
end of the input it is a derivation.  Conversely a run of the machine follows every derivation
(`Derives.reaches`).  Together: the machine accepts exactly the derivable lists of tokens and
builds the tree of the derivation (`ofTokens_eq_ok_iff`), of which there is only one
(`Derives.unique`). -/

namespace RecordFilter

/-! ### Derivations -/

/-- What a literal token stands for in a comparison with `field`: the value that it denotes, or
its text as written with the reason why it denotes none. -/
inductive Resolves (t : Token) (field : String) : WrittenLiteral → Prop
  | valid {l : Literal} (h : t.literal field = .ok l) : Resolves t field (.valid l)
  | invalid {e : FilterError} (h : t.literal field = .error e) :
      Resolves t field (.invalid t.lexeme e)

/-- The nonterminals of the grammar. -/
inductive Phrase where
  | expression
  | conjunction
  | atom

/-- `Derives n ts e`: the tokens `ts` are derivable from `n`, and `e` is the tree of the
derivation. -/
inductive Derives : Phrase → List Token → Expr → Prop
  | comparison {f o l : Token} {op : Comparator} {shape : LiteralShape} {value : WrittenLiteral}
      (hf : f.kind = .identifier) (ho : o.kind = .comparator op) (hl : l.kind = .literal shape)
      (hv : Resolves l f.lexeme value) : Derives .atom [f, o, l] (.comparison f.lexeme op value)
  | group {p q : Token} {ts : List Token} {e : Expr} (hp : p.kind = .leftParen)
      (h : Derives .expression ts e) (hq : q.kind = .rightParen) : Derives .atom (p :: ts ++ [q]) e
  | ofAtom {ts : List Token} {e : Expr} (h : Derives .atom ts e) : Derives .conjunction ts e
  | and {ts us : List Token} {c : Token} {l r : Expr} (hl : Derives .conjunction ts l)
      (hc : c.kind = .connective .and) (hr : Derives .atom us r) :
      Derives .conjunction (ts ++ c :: us) (.binary .and l r)
  | ofConjunction {ts : List Token} {e : Expr} (h : Derives .conjunction ts e) :
      Derives .expression ts e
  | or {ts us : List Token} {c : Token} {l r : Expr} (hl : Derives .expression ts l)
      (hc : c.kind = .connective .or) (hr : Derives .conjunction us r) :
      Derives .expression (ts ++ c :: us) (.binary .or l r)

theorem resolves_iff {t : Token} {field : String} {value : WrittenLiteral} :
    Resolves t field value ↔ value = .ofToken t field := by
  constructor
  · intro h
    cases h with
    | valid h => simp [WrittenLiteral.ofToken, h]
    | invalid h => simp [WrittenLiteral.ofToken, h]
  · rintro rfl
    unfold WrittenLiteral.ofToken
    split
    · next l h => exact .valid h
    · next e h => exact .invalid h

theorem Derives.ofAtom' {ts : List Token} {e : Expr} (h : Derives .atom ts e) :
    Derives .expression ts e :=
  .ofConjunction (.ofAtom h)

/-! ### Runs of the parser -/

namespace State

/-- The state after all the given tokens; `none` if one of them may not follow. -/
def takes (s : State) (ts : List Token) : Option State :=
  ts.foldlM take? s

@[simp] theorem takes_nil (s : State) : s.takes [] = some s := rfl

theorem takes_cons (s : State) (t : Token) (ts : List Token) :
    s.takes (t :: ts) = (s.take? t).bind (·.takes ts) := rfl

theorem takes_append (s : State) (ts us : List Token) :
    s.takes (ts ++ us) = (s.takes ts).bind (·.takes us) := by
  simp [takes, List.foldlM_append]

theorem takes_singleton (s : State) (t : Token) : s.takes [t] = s.take? t := by
  rw [takes_cons]
  cases s.take? t <;> rfl

theorem take?_of_ending (s : State) {t : Token} (ht : t.kind = .endOfInput) :
    s.take? t = none := by
  unfold take?
  split <;> simp_all

theorem run_append {s s' : State} {ts : List Token} (h : s.takes ts = some s')
    (us : List Token) : s.run (ts ++ us) = s'.run us := by
  induction ts generalizing s with
  | nil =>
      cases h
      rfl
  | cons t ts ih =>
      rw [takes_cons, Option.bind_eq_some_iff] at h
      obtain ⟨s₁, h₁, h₂⟩ := h
      have ht : t.kind ≠ .endOfInput := fun ht => by simp [s.take?_of_ending ht] at h₁
      rw [List.cons_append, run, if_neg ht, h₁]
      exact ih h₂

theorem takes_of_run_eq_ok {s : State} {ts : List Token} {t : Token} {e : Expr}
    (hts : ∀ u ∈ ts, u.kind ≠ .endOfInput) (ht : t.kind = .endOfInput)
    (h : s.run (ts ++ [t]) = .ok e) : ∃ s', s.takes ts = some s' ∧ s'.finish? = some e := by
  induction ts generalizing s with
  | nil =>
      rw [List.nil_append, run, if_pos ht] at h
      refine ⟨s, rfl, ?_⟩
      unfold ended at h
      split at h
      · next hf =>
          cases h
          exact hf
      · cases h
  | cons u ts ih =>
      rw [List.cons_append, run, if_neg (hts u List.mem_cons_self)] at h
      split at h
      · next s₁ h₁ =>
          obtain ⟨s', hs', hf⟩ := ih (fun v hv => hts v (List.mem_cons_of_mem _ hv)) h
          refine ⟨s', ?_, hf⟩
          rw [takes_cons, h₁, Option.bind_some, hs']
      · cases h

end State

/-! ### What has been read in a state -/

/-- What an operand that waits on the left of `op` was read from: tokens derivable from `n` and
the connective, or nothing if there is no operand. -/
inductive Waits (n : Phrase) (op : Connective) : Option Expr → List Token → Prop
  | nothing : Waits n op none []
  | operand {us : List Token} {c : Token} {e : Expr} (h : Derives n us e)
      (hc : c.kind = .connective op) : Waits n op (some e) (us ++ [c])

/-- The tokens of a group up to its next atom. -/
inductive Pending.Spells : Pending → List Token → Prop
  | mk {alts conj : Option Expr} {us vs : List Token} (ha : Waits .expression .or alts us)
      (hc : Waits .conjunction .and conj vs) : Pending.Spells ⟨alts, conj⟩ (us ++ vs)

/-- The tokens of the groups around the innermost one, with their left parentheses. -/
inductive Opened : List Pending → List Token → Prop
  | top : Opened [] []
  | within {g : Pending} {gs : List Pending} {us vs : List Token} {p : Token} (ho : Opened gs us)
      (hg : g.Spells vs) (hp : p.kind = .leftParen) : Opened (g :: gs) (us ++ vs ++ [p])

/-- The tokens of the atom that a stage is in the middle of. -/
inductive Stage.Spells : Stage → List Token → Prop
  | atom : Stage.Spells .atom []
  | comparator {f : Token} (hf : f.kind = .identifier) : Stage.Spells (.comparator f.lexeme) [f]
  | literal {f o : Token} {op : Comparator} (hf : f.kind = .identifier)
      (ho : o.kind = .comparator op) : Stage.Spells (.literal f.lexeme op) [f, o]
  | operand {ts : List Token} {e : Expr} (h : Derives .atom ts e) : Stage.Spells (.operand e) ts

/-- The tokens that lead to a state: those of the outer groups, of the innermost group and of its
current atom. -/
inductive State.Spells : State → List Token → Prop
  | mk {stage : Stage} {group : Pending} {outer : List Pending} {us vs ws : List Token}
      (ho : Opened outer us) (hg : group.Spells vs) (hs : stage.Spells ws) :
      State.Spells ⟨stage, group, outer⟩ (us ++ vs ++ ws)

theorem Pending.Spells.empty : Pending.empty.Spells [] :=
  .mk .nothing .nothing

theorem Waits.conjoin {conj : Option Expr} {vs ws : List Token} {a : Expr}
    (hc : Waits .conjunction .and conj vs) (ha : Derives .atom ws a) :
    Derives .conjunction (vs ++ ws) (Pending.join .and conj a) := by
  cases hc with
  | nothing => exact .ofAtom ha
  | operand h hk =>
      rw [List.append_assoc]
      exact .and h hk ha

theorem Waits.disjoin {alts : Option Expr} {us vs : List Token} {c : Expr}
    (ha : Waits .expression .or alts us) (hc : Derives .conjunction vs c) :
    Derives .expression (us ++ vs) (Pending.join .or alts c) := by
  cases ha with
  | nothing => exact .ofConjunction hc
  | operand h hk =>
      rw [List.append_assoc]
      exact .or h hk hc

theorem Pending.Spells.close {g : Pending} {vs ws : List Token} {a : Expr} (hg : g.Spells vs)
    (ha : Derives .atom ws a) : Derives .expression (vs ++ ws) (g.close a) := by
  cases hg with
  | mk hw hc =>
      rw [List.append_assoc]
      exact hw.disjoin (hc.conjoin ha)

theorem Pending.Spells.extend {g : Pending} {vs ws : List Token} {a : Expr} {c : Token}
    {op : Connective} (hg : g.Spells vs) (ha : Derives .atom ws a)
    (hc : c.kind = .connective op) : (g.extend a op).Spells (vs ++ ws ++ [c]) := by
  cases op with
  | or =>
      have h := Pending.Spells.mk (.operand (hg.close ha) hc) (.nothing (n := .conjunction))
      rwa [List.append_nil] at h
  | and =>
      cases hg with
      | mk hw hj =>
          have h := Pending.Spells.mk hw (.operand (hj.conjoin ha) hc)
          rwa [← List.append_assoc, ← List.append_assoc] at h

/-- One step keeps the account of the tokens read so far. -/
theorem State.take?_spells {s s' : State} {ts : List Token} {t : Token} (h : s.Spells ts)
    (ht : s.take? t = some s') : s'.Spells (ts ++ [t]) := by
  obtain ⟨ho, hg, hs⟩ := h
  cases hs with
  | atom =>
      cases hk : t.kind <;> simp only [take?, hk, reduceCtorEq, Option.some.injEq] at ht
      · subst ht
        rw [List.append_nil]
        exact .mk ho hg (.comparator hk)
      · subst ht
        rw [List.append_nil]
        have h := State.Spells.mk (.within ho hg hk) .empty .atom
        rwa [List.append_nil, List.append_nil] at h
  | comparator hf =>
      cases hk : t.kind <;> simp only [take?, hk, reduceCtorEq, Option.some.injEq] at ht
      subst ht
      rw [List.append_assoc]
      exact .mk ho hg (.literal hf hk)
  | literal hf hop =>
      cases hk : t.kind <;> simp only [take?, hk, reduceCtorEq, Option.some.injEq] at ht
      subst ht
      rw [List.append_assoc]
      exact .mk ho hg (.operand (.comparison hf hop hk (resolves_iff.mpr rfl)))
  | operand ha =>
      cases hk : t.kind <;> simp only [take?, hk, reduceCtorEq, Option.some.injEq] at ht
      · subst ht
        have h := State.Spells.mk ho (hg.extend ha hk) .atom
        rwa [List.append_nil, ← List.append_assoc, ← List.append_assoc] at h
      · -- a right parenthesis closes the innermost group, which becomes an atom of the next one
        cases ho with
        | top => cases ht
        | within ho hg' hp =>
            cases ht
            have h := State.Spells.mk ho hg' (.operand (.group hp (hg.close ha) hk))
            simpa only [List.append_assoc, List.cons_append, List.nil_append] using h

theorem State.takes_spells {s s' : State} {ts us : List Token} (h : s.Spells ts)
    (hu : s.takes us = some s') : s'.Spells (ts ++ us) := by
  induction us generalizing s ts with
  | nil =>
      cases hu
      rwa [List.append_nil]
  | cons u us ih =>
      rw [takes_cons, Option.bind_eq_some_iff] at hu
      obtain ⟨s₁, h₁, h₂⟩ := hu
      have := ih (take?_spells h h₁) h₂
      rwa [List.append_assoc] at this

theorem State.initial_spells : State.initial.Spells [] :=
  .mk .top .empty .atom

/-- Where the input may end, the tokens read are an expression. -/
theorem State.Spells.derives {s : State} {ts : List Token} {e : Expr} (h : s.Spells ts)
    (he : s.finish? = some e) : Derives .expression ts e := by
  obtain ⟨ho, hg, hs⟩ := h
  cases hs with
  | operand ha =>
      cases ho with
      | top =>
          cases he
          exact hg.close ha
      | within => cases he
  | _ => cases he

/-! ### The run along a derivation -/

/-- The run of the parser over tokens with the tree `e`, from any state that waits for such a
phrase. -/
def Reaches : Phrase → List Token → Expr → Prop
  | .atom, ts, e => ∀ group outer,
      State.takes ⟨.atom, group, outer⟩ ts = some ⟨.operand e, group, outer⟩
  | .conjunction, ts, e => ∀ alts outer, ∃ conj a,
      State.takes ⟨.atom, ⟨alts, none⟩, outer⟩ ts = some ⟨.operand a, ⟨alts, conj⟩, outer⟩ ∧
        Pending.join .and conj a = e
  | .expression, ts, e => ∀ outer, ∃ group a,
      State.takes ⟨.atom, .empty, outer⟩ ts = some ⟨.operand a, group, outer⟩ ∧
        group.close a = e

/-- The parser follows every derivation. -/
theorem Derives.reaches {n : Phrase} {ts : List Token} {e : Expr} (h : Derives n ts e) :
    Reaches n ts e := by
  induction h with
  | @comparison f o l op shape value hf ho hl hv =>
      intro group outer
      rw [resolves_iff.mp hv]
      simp [State.takes, State.take?, hf, ho, hl]
  | @group p q ts e hp _ hq ih =>
      intro group outer
      obtain ⟨g, a, h₁, rfl⟩ := ih (group :: outer)
      have h₀ : State.take? ⟨.atom, group, outer⟩ p = some ⟨.atom, .empty, group :: outer⟩ := by
        simp [State.take?, hp]
      have h₂ : State.take? ⟨.operand a, g, group :: outer⟩ q
          = some ⟨.operand (g.close a), group, outer⟩ := by simp [State.take?, hq]
      rw [List.cons_append, State.takes_cons, h₀, Option.bind_some, State.takes_append, h₁,
        Option.bind_some, State.takes_singleton, h₂]
  | ofAtom _ ih =>
      intro alts outer
      exact ⟨none, _, ih _ _, rfl⟩
  | @and ts us c l r _ hc _ ihl ihr =>
      intro alts outer
      obtain ⟨conj, a, h₁, rfl⟩ := ihl alts outer
      refine ⟨some (Pending.join .and conj a), r, ?_, rfl⟩
      have h₂ : State.take? ⟨.operand a, ⟨alts, conj⟩, outer⟩ c
          = some ⟨.atom, ⟨alts, some (Pending.join .and conj a)⟩, outer⟩ := by
        simp [State.take?, hc, Pending.extend, Pending.conjoin]
      rw [State.takes_append, h₁, Option.bind_some, State.takes_cons, h₂, Option.bind_some]
      exact ihr _ _
  | ofConjunction _ ih =>
      intro outer
      obtain ⟨conj, a, h₁, rfl⟩ := ih none outer
      exact ⟨_, a, h₁, rfl⟩
  | @or ts us c l r _ hc _ ihl ihr =>
      intro outer
      obtain ⟨group, a, h₁, rfl⟩ := ihl outer
      obtain ⟨conj, b, h₃, rfl⟩ := ihr (some (group.close a)) outer
      refine ⟨⟨some (group.close a), conj⟩, b, ?_, rfl⟩
      have h₂ : State.take? ⟨.operand a, group, outer⟩ c
          = some ⟨.atom, ⟨some (group.close a), none⟩, outer⟩ := by
        simp [State.take?, hc, Pending.extend]
      rw [State.takes_append, h₁, Option.bind_some, State.takes_cons, h₂, Option.bind_some]
      exact h₃

/-! ### Acceptance -/

/-- The parser accepts a list of tokens exactly with the trees of its derivations. -/
theorem ofTokens_eq_ok_iff {ts : List Token} {t : Token} (hts : ∀ u ∈ ts, u.kind ≠ .endOfInput)
    (ht : t.kind = .endOfInput) {e : Expr} :
    Expr.ofTokens (ts ++ [t]) = .ok e ↔ Derives .expression ts e := by
  constructor
  · intro h
    obtain ⟨s, hs, hf⟩ := State.takes_of_run_eq_ok hts ht h
    exact (State.takes_spells State.initial_spells hs).derives hf
  · intro h
    obtain ⟨group, a, hs, rfl⟩ := h.reaches []
    rw [Expr.ofTokens, State.initial, State.run_append hs, State.run, if_pos ht]
    rfl

theorem Derives.ne_ending {n : Phrase} {ts : List Token} {e : Expr} (h : Derives n ts e) :
    ∀ t ∈ ts, t.kind ≠ .endOfInput := by
  induction h with
  | comparison hf ho hl _ => simp [hf, ho, hl]
  | group hp _ hq ih =>
      intro t ht
      simp only [List.cons_append, List.mem_cons, List.mem_append, List.not_mem_nil, or_false] at ht
      rcases ht with rfl | ht | rfl
      · simp [hp]
      · exact ih t ht
      · simp [hq]
  | ofAtom _ ih | ofConjunction _ ih => exact ih
  | and _ hc _ ihl ihr | or _ hc _ ihl ihr =>
      intro t ht
      rcases List.mem_append.mp ht with ht | ht
      · exact ihl t ht
      · rcases List.mem_cons.mp ht with rfl | ht
        · simp [hc]
        · exact ihr t ht

/-- A list of tokens has at most one tree. -/
theorem Derives.unique {ts : List Token} {e₁ e₂ : Expr} (h₁ : Derives .expression ts e₁)
    (h₂ : Derives .expression ts e₂) : e₁ = e₂ := by
  have hts := h₁.ne_ending
  have ht : (Token.ending 0).kind = .endOfInput := rfl
  rw [← ofTokens_eq_ok_iff hts ht] at h₁ h₂
  exact Except.ok.inj (h₁.symm.trans h₂)

/-- Whether tokens are derivable depends on their kinds alone: a literal without a value does not
keep them from being so. -/
theorem Derives.exists_of_kinds {n : Phrase} {ts us : List Token} {e : Expr}
    (h : Derives n ts e) (hk : us.map Token.kind = ts.map Token.kind) : ∃ e', Derives n us e' := by
  induction h generalizing us with
  | comparison hf ho hl _ =>
      simp only [List.map_cons, List.map_nil, List.map_eq_cons_iff, List.map_eq_nil_iff] at hk
      obtain ⟨f', _, rfl, h₁, o', _, rfl, h₂, l', _, rfl, h₃, rfl⟩ := hk
      exact ⟨_, .comparison (h₁.trans hf) (h₂.trans ho) (h₃.trans hl) (resolves_iff.mpr rfl)⟩
  | group hp _ hq ih =>
      simp only [List.map_append, List.map_cons, List.map_nil, List.cons_append,
        List.map_eq_cons_iff, List.map_eq_append_iff, List.map_eq_nil_iff] at hk
      obtain ⟨p', _, rfl, h₁, vs, _, rfl, h₂, q', _, rfl, h₃, rfl⟩ := hk
      obtain ⟨e', h⟩ := ih h₂
      exact ⟨e', .group (h₁.trans hp) h (h₃.trans hq)⟩
  | ofAtom _ ih =>
      obtain ⟨e', h⟩ := ih hk
      exact ⟨e', .ofAtom h⟩
  | and _ hc _ ihl ihr =>
      simp only [List.map_append, List.map_cons, List.map_eq_cons_iff,
        List.map_eq_append_iff] at hk
      obtain ⟨vs, _, rfl, h₁, c', ws, rfl, h₂, h₃⟩ := hk
      obtain ⟨l', hl⟩ := ihl h₁
      obtain ⟨r', hr⟩ := ihr h₃
      exact ⟨_, .and hl (h₂.trans hc) hr⟩
  | ofConjunction _ ih =>
      obtain ⟨e', h⟩ := ih hk
      exact ⟨e', .ofConjunction h⟩
  | or _ hc _ ihl ihr =>
      simp only [List.map_append, List.map_cons, List.map_eq_cons_iff,
        List.map_eq_append_iff] at hk
      obtain ⟨vs, _, rfl, h₁, c', ws, rfl, h₂, h₃⟩ := hk
      obtain ⟨l', hl⟩ := ihl h₁
      obtain ⟨r', hr⟩ := ihr h₃
      exact ⟨_, .or hl (h₂.trans hc) hr⟩

theorem parse_of_tokenize {input : String} {us : List Token} (h : tokenize input = .ok us) :
    Expr.parse input = Expr.ofTokens us := by
  rw [Expr.parse, h]
  rfl

theorem parse_eq_ok_iff_of_tokenize {input : String} {ts : List Token} {t : Token} {e : Expr}
    (h : tokenize input = .ok (ts ++ [t])) :
    Expr.parse input = .ok e ↔ Derives .expression ts e := by
  obtain ⟨ht, s, hr⟩ := tokenize_eq_ok h
  rw [parse_of_tokenize h]
  exact ofTokens_eq_ok_iff hr.ne_ending (by rw [ht]; rfl)

theorem exists_derives_of_parse {input : String} {e : Expr} (h : Expr.parse input = .ok e) :
    ∃ ts t, tokenize input = .ok (ts ++ [t]) ∧ Derives .expression ts e := by
  cases ht : tokenize input with
  | error err =>
      rw [Expr.parse, ht] at h
      cases h
  | ok us =>
      obtain ⟨ts, _, t, _, _, _, _, rfl⟩ := Cursor.tokens_eq_ok_iff.mp ht
      exact ⟨ts, t, rfl, (parse_eq_ok_iff_of_tokenize ht).mp h⟩

/-- **The parser accepts exactly the grammar.**  A text whose tokens are `ts` and the end of the
input is read as the tree `e` exactly if `ts` is derivable with the tree `e`.  No list of tokens
has two trees, and whether it has one depends on the kinds of its tokens alone. -/
theorem parse_eq_ok_iff_derives {input : String} {ts : List Token} {t : Token}
    (h : tokenize input = .ok (ts ++ [t])) :
    (∀ e, Expr.parse input = .ok e ↔ Derives .expression ts e) ∧
      (∀ us e₁ e₂, Derives .expression us e₁ → Derives .expression us e₂ → e₁ = e₂) ∧
      ∀ us vs, us.map Token.kind = vs.map Token.kind →
        ((∃ e, Derives .expression us e) ↔ ∃ e, Derives .expression vs e) := by
  refine ⟨fun e => parse_eq_ok_iff_of_tokenize h, fun us e₁ e₂ h₁ h₂ => h₁.unique h₂, ?_⟩
  · intro us vs hk
    exact ⟨fun ⟨_, h⟩ => h.exists_of_kinds hk.symm, fun ⟨_, h⟩ => h.exists_of_kinds hk⟩

set_option maxRecDepth 2000 in
theorem tokenize_group :
    tokenize "(a lt 9223372036854775808)" = .ok ([⟨.leftParen, "(", 0⟩, ⟨.identifier, "a", 1⟩,
      ⟨.comparator .lt, "lt", 3⟩, ⟨.literal .decimal, "9223372036854775808", 6⟩,
      ⟨.rightParen, ")", 25⟩] ++ [.ending 26]) := by
  have h₁ : Cursor.next ⟨"(a lt 9223372036854775808)".toList, 0⟩
      = (.ok ⟨.leftParen, "(", 0⟩, ⟨"a lt 9223372036854775808)".toList, 1⟩) := rfl
  have h₂ : Cursor.next ⟨"a lt 9223372036854775808)".toList, 1⟩
      = (.ok ⟨.identifier, "a", 1⟩, ⟨" lt 9223372036854775808)".toList, 2⟩) := rfl
  have h₃ : Cursor.next ⟨" lt 9223372036854775808)".toList, 2⟩
      = (.ok ⟨.comparator .lt, "lt", 3⟩, ⟨" 9223372036854775808)".toList, 5⟩) := rfl
  have h₄ : Cursor.next ⟨" 9223372036854775808)".toList, 5⟩
      = (.ok ⟨.literal .decimal, "9223372036854775808", 6⟩, ⟨")".toList, 25⟩) := rfl
  have h₅ : Cursor.next ⟨")".toList, 25⟩ = (.ok ⟨.rightParen, ")", 25⟩, ⟨[], 26⟩) := rfl
  have h₆ : Cursor.next ⟨[], 26⟩ = (.ok (.ending 26), ⟨[], 26⟩) := rfl
  exact Cursor.tokens_eq_ok_iff.mpr ⟨_, _, _, _, .cons h₁ (by decide) (.cons h₂ (by decide)
    (.cons h₃ (by decide) (.cons h₄ (by decide) (.cons h₅ (by decide) .nil)))), h₆, rfl, rfl⟩

/-- A comparison in parentheses whose literal is no 64-bit number is read as that comparison. -/
theorem parse_group_invalid :
    tokenize "(a lt 9223372036854775808)" = .ok ([⟨.leftParen, "(", 0⟩, ⟨.identifier, "a", 1⟩,
      ⟨.comparator .lt, "lt", 3⟩, ⟨.literal .decimal, "9223372036854775808", 6⟩,
      ⟨.rightParen, ")", 25⟩] ++ [.ending 26]) ∧
    Expr.parse "(a lt 9223372036854775808)" = .ok (.comparison "a" .lt
      (.invalid "9223372036854775808" (.incompatible "a"))) := by
  refine ⟨tokenize_group, ((parse_eq_ok_iff_derives tokenize_group).1 _).mpr ?_⟩
  exact .ofConjunction (.ofAtom (.group rfl (.ofConjunction (.ofAtom
    (.comparison rfl rfl rfl (resolves_iff.mpr (by decide +kernel))))) rfl))

end RecordFilter
