import RecordFilter.Proofs.Compilation
import RecordFilter.Proofs.LexicalFaults
import RecordFilter.Proofs.PrintedExpr

/-! # Which error a rejected filter has

A text is rejected for its first fault, but not every fault counts alike: a text that has no
tokens is rejected for these, and one whose tokens are not derivable for its grammar, wherever the
other faults stand.  Only then its comparisons are looked at, in reading order
(`ofText_error_wins`); within a comparison the literal counts first, then the operator, the
field and what the type of the field makes of the literal (`Comparison.Faults`).

The tree of a filter groups its comparisons in other ways than the text does.  The tree is walked
from left to right all the same: `Derives.findSome?_comparisons` goes by induction on the
derivation, in which every phrase contributes the comparisons of its tokens. -/

namespace RecordFilter

/-! ### Comparisons in a list of tokens -/

/-- A comparison as it is written: the name of the field, the operator and the literal token. -/
structure Comparison where
  field : String
  op : Comparator
  literal : Token

/-- The comparison as an expression of its own. -/
def Comparison.expr (c : Comparison) : Expr :=
  .comparison c.field c.op (.ofToken c.literal c.field)

/-- The comparisons in a list of tokens, in reading order. -/
def comparisons : List Token → List Comparison
  | f :: o :: l :: ts =>
      match f.kind, o.kind with
      | .identifier, .comparator op => ⟨f.lexeme, op, l⟩ :: comparisons ts
      | _, _ => comparisons (o :: l :: ts)
  | _ => []

theorem comparisons_cons {t : Token} (h : t.kind ≠ .identifier) (ts : List Token) :
    comparisons (t :: ts) = comparisons ts := by
  cases ts with
  | nil => rfl
  | cons o ts =>
      cases ts with
      | nil => rfl
      | cons l ts =>
          rw [comparisons]
          split
          · next hk _ => exact absurd hk h
          · rfl

theorem Derives.comparisons_append {n : Phrase} {ts : List Token} {e : Expr}
    (h : Derives n ts e) (us : List Token) :
    comparisons (ts ++ us) = comparisons ts ++ comparisons us := by
  induction h generalizing us with
  | @comparison f o l op _ _ hf ho _ _ =>
      simp [comparisons, hf, ho]
  | @group p q ts e hp _ hq ih =>
      have hp' : p.kind ≠ .identifier := by simp [hp]
      have hq' : q.kind ≠ .identifier := by simp [hq]
      rw [List.cons_append, List.cons_append, comparisons_cons hp', comparisons_cons hp',
        List.append_assoc, ih, ih, List.cons_append, List.nil_append, comparisons_cons hq',
        comparisons_cons hq']
      simp [comparisons]
  | ofAtom _ ih | ofConjunction _ ih => exact ih us
  | @and ts vs c _ _ _ hc _ ihl ihr | @or ts vs c _ _ _ hc _ ihl ihr =>
      have hc' : c.kind ≠ .identifier := by simp [hc]
      rw [List.append_assoc, List.cons_append, ihl, ihl, comparisons_cons hc',
        comparisons_cons hc', ihr, List.append_assoc]

theorem Derives.comparisons_group {p q : Token} {ts : List Token} {e : Expr}
    (hp : p.kind = .leftParen) (h : Derives .expression ts e) :
    comparisons (p :: ts ++ [q]) = comparisons ts := by
  rw [List.cons_append, comparisons_cons (by simp [hp]), h.comparisons_append]
  exact List.append_nil _

theorem Derives.comparisons_joined {n : Phrase} {ts us : List Token} {c : Token}
    {op : Connective} {e : Expr} (h : Derives n ts e) (hc : c.kind = .connective op) :
    comparisons (ts ++ c :: us) = comparisons ts ++ comparisons us := by
  rw [h.comparisons_append, comparisons_cons (by simp [hc])]

theorem Derives.literal_mem {n : Phrase} {ts : List Token} {e : Expr} (h : Derives n ts e) :
    ∀ c ∈ comparisons ts, c.literal ∈ ts ∧ ∃ shape, c.literal.kind = .literal shape := by
  induction h with
  | @comparison f o l op shape _ hf ho hl _ =>
      intro c hc
      obtain rfl : c = ⟨f.lexeme, op, l⟩ := by simpa [comparisons, hf, ho] using hc
      exact ⟨by simp, shape, hl⟩
  | group hp h _ ih =>
      intro c hc
      rw [h.comparisons_group hp] at hc
      obtain ⟨hm, hk⟩ := ih c hc
      exact ⟨by simp [hm], hk⟩
  | ofAtom _ ih | ofConjunction _ ih => exact ih
  | and hl hc _ ihl ihr | or hl hc _ ihl ihr =>
      intro c hm
      rw [hl.comparisons_joined hc, List.mem_append] at hm
      rcases hm with hm | hm
      · obtain ⟨hm, hk⟩ := ihl c hm
        exact ⟨by simp [hm], hk⟩
      · obtain ⟨hm, hk⟩ := ihr c hm
        exact ⟨by simp [hm], hk⟩

/-! ### The first comparison that does not compile -/

/-- The error of a failed compilation. -/
def failure? (r : Except FilterError Predicate) : Option FilterError :=
  match r with
  | .ok _ => none
  | .error err => some err

theorem failure?_eq_none_iff {r : Except FilterError Predicate} :
    failure? r = none ↔ ∃ p, r = .ok p := by
  cases r <;> simp [failure?]

theorem failure?_eq_some_iff {r : Except FilterError Predicate} {err : FilterError} :
    failure? r = some err ↔ r = .error err := by
  cases r <;> simp [failure?]

variable {ω : Type} [Operation ω] {registry : Registry ω} {table : FieldTable}

theorem failure?_binary (op : Connective) (l r : Expr) :
    failure? ((Expr.binary op l r).compile registry table) =
      (failure? (l.compile registry table)).or (failure? (r.compile registry table)) := by
  rw [Expr.compile]
  cases l.compile registry table with
  | error err => rfl
  | ok p =>
      cases r.compile registry table with
      | error err => rfl
      | ok q => rfl

/-- What a tree has from the first of its sides that has something, it has from the first of its
comparisons in reading order. -/
theorem Derives.findSome?_comparisons {α : Type} {n : Phrase} {ts : List Token} {e : Expr}
    (h : Derives n ts e) {g : Expr → Option α}
    (hg : ∀ op l r, g (.binary op l r) = (g l).or (g r)) :
    g e = (comparisons ts).findSome? fun c => g c.expr := by
  induction h with
  | @comparison f o l op _ _ hf ho _ hv =>
      have hc : comparisons [f, o, l] = [⟨f.lexeme, op, l⟩] := by simp [comparisons, hf, ho]
      rw [hc, List.findSome?_singleton, resolves_iff.mp hv]
      rfl
  | group hp h _ ih => rw [h.comparisons_group hp, ih]
  | ofAtom _ ih | ofConjunction _ ih => exact ih
  | and hl hc _ ihl ihr | or hl hc _ ihl ihr =>
      rw [hl.comparisons_joined hc, List.findSome?_append, hg, ihl, ihr]

theorem Derives.failure?_compile {n : Phrase} {ts : List Token} {e : Expr}
    (h : Derives n ts e) : failure? (e.compile registry table) =
      (comparisons ts).findSome? fun c => failure? (c.expr.compile registry table) :=
  h.findSome?_comparisons (g := fun e => failure? (e.compile registry table)) failure?_binary

/-! ### The error of one comparison -/

/-- The texts of literal tokens that stand for no value. -/
def DenotesNothing (cs : List Char) : Prop :=
  IsOverflow cs ∨ IsQuotedNoDate cs ∨ IsQuotedNoTime cs

theorem Lexeme.kind_unique {k k' : TokenKind} {cs : List Char} (h : Lexeme k cs)
    (h' : Lexeme k' cs) : k = k' := by
  have he := (front_lexeme h k.stops_nil).symm.trans (front_lexeme h' k'.stops_nil)
  cases he
  rfl

/-- A literal token stands for no value exactly if its text denotes none, and the error names the
field as it is written. -/
theorem literal_eq_error_iff {t : Token} {shape : LiteralShape} (hk : t.kind = .literal shape)
    (hl : Lexeme (.literal shape) t.lexeme.toList) {field : String} {err : FilterError} :
    t.literal field = .error err ↔ err = .incompatible field ∧ DenotesNothing t.lexeme.toList := by
  constructor
  · intro h
    have hw : (WrittenLiteral.ofToken t field).WellFormed field := wellFormed_ofToken hk hl
    rw [WrittenLiteral.ofToken, h] at hw
    exact hw
  · rintro ⟨rfl, h⟩
    have hw : (WrittenLiteral.invalid t.lexeme (.incompatible field)).WellFormed field := ⟨rfl, h⟩
    obtain ⟨shape', hl', hr⟩ := hw.reprints
    have hs : TokenKind.literal shape = .literal shape' := hl.kind_unique hl'
    have ho := hr t (hk.trans hs) rfl
    unfold WrittenLiteral.ofToken at ho
    split at ho
    · cases ho
    · next h' =>
        cases ho
        exact h'

/-- `c.Faults registry table err`: the first fault of the comparison is the one that `err` reports.
Every fault but the first presumes that the ones before it are absent. -/
inductive Comparison.Faults (registry : Registry ω) (table : FieldTable) (c : Comparison) :
    FilterError → Prop
  | literal (h : DenotesNothing c.literal.lexeme.toList) :
      Faults registry table c (.incompatible c.field)
  | operator {l : Literal} (hl : Resolves c.literal c.field (.valid l))
      (h : registry.meaning c.op = none) : Faults registry table c (.unsupportedComparator c.op)
  | field {l : Literal} {meaning : ω} (hl : Resolves c.literal c.field (.valid l))
      (hm : registry.meaning c.op = some meaning)
      (h : ∀ f ∈ table.fields, sameName f.name c.field = false) :
      Faults registry table c (.unknownField c.field (table.suggest c.field))
  | type {l : Literal} {meaning : ω} {f : Field} {err : FilterError}
      (hl : Resolves c.literal c.field (.valid l)) (hm : registry.meaning c.op = some meaning)
      (hf : table.lookup c.field = some f) (h : f.type.Rejects f.name l err) :
      Faults registry table c err

theorem Comparison.compile_valid_eq_error_iff {c : Comparison} {l : Literal} {err : FilterError}
    (ho : c.literal.literal c.field = .ok l) (hn : ¬ DenotesNothing c.literal.lexeme.toList) :
    (Expr.comparison c.field c.op (.valid l)).compile registry table = .error err ↔
      c.Faults registry table err := by
  have hv : Resolves c.literal c.field (.valid l) := .valid ho
  rw [compile_valid]
  cases hm : registry.meaning c.op with
  | none =>
      constructor
      · intro h
        cases h
        exact .operator hv hm
      · intro h
        cases h with
        | literal h => exact absurd h hn
        | operator => rfl
        | field _ hm' | type _ hm' =>
            rw [hm] at hm'
            cases hm'
  | some meaning =>
      refine comparison_eq_error_iff.trans ?_
      constructor
      · rintro (⟨h, rfl⟩ | ⟨f, hf, h⟩)
        · exact .field hv hm h
        · exact .type hv hm hf h
      · intro h
        cases h with
        | literal h => exact absurd h hn
        | operator _ hm' =>
            rw [hm] at hm'
            cases hm'
        | field _ _ h => exact .inl ⟨h, rfl⟩
        | @type l' _ f _ hl' _ hf h =>
            obtain ⟨hl'⟩ := hl'
            obtain rfl : l = l' := Except.ok.inj (ho.symm.trans hl')
            exact .inr ⟨f, hf, h⟩

/-- A comparison is rejected for its first fault. -/
theorem Comparison.compile_eq_error_iff {c : Comparison} {shape : LiteralShape}
    (hk : c.literal.kind = .literal shape)
    (hl : Lexeme (.literal shape) c.literal.lexeme.toList) {err : FilterError} :
    c.expr.compile registry table = .error err ↔ c.Faults registry table err := by
  rw [Comparison.expr]
  cases ho : c.literal.literal c.field with
  | error e =>
      obtain ⟨rfl, hn⟩ := (literal_eq_error_iff hk hl).mp ho
      rw [ofToken_of_error rfl ho, compile_invalid]
      constructor
      · intro h
        cases h
        exact .literal hn
      · intro h
        cases h with
        | literal => rfl
        | operator h | field h | type h =>
            obtain ⟨h⟩ := h
            rw [ho] at h
            cases h
  | ok l =>
      have hn : ¬ DenotesNothing c.literal.lexeme.toList := fun h => by
        have he : c.literal.literal c.field = _ := (literal_eq_error_iff hk hl).mpr ⟨rfl, h⟩
        rw [ho] at he
        cases he
      rw [← resolves_iff.mp (.valid ho)]
      exact Comparison.compile_valid_eq_error_iff ho hn

omit [Operation ω] in
theorem Comparison.Faults.isSyntax {c : Comparison} {err : FilterError}
    (h : c.Faults registry table err) : err.isSyntax = false := by
  cases h with
  | literal | operator | field => rfl
  | type _ _ _ h => exact h.isSyntax

/-! ### Texts without a tree -/

theorem Cursor.unrecognized_of_tokens {s : Cursor} {err : FilterError}
    (h : s.tokens = .error err) : ∃ text position, err = .unrecognized text position := by
  obtain ⟨_, _, text, _, _, -, -, -, -, rfl⟩ := exists_fault_of_tokens h
  exact ⟨_, _, rfl⟩

theorem State.failure_cases (s : State) (t : Token) :
    (∃ expected, s.failure t = .mismatched expected t) ∨
      ∃ expected, s.failure t = .missing expected t := by
  unfold failure
  split
  · exact .inr ⟨_, rfl⟩
  · exact .inl ⟨_, rfl⟩

theorem State.failure_of_run {s : State} {ts : List Token} {err : FilterError}
    (h : s.run ts = .error err) : ∃ (s' : State) (t : Token), err = s'.failure t := by
  have he {s : State} {t : Token} (h : s.ended t = .error err) : err = s.failure t := by
    unfold ended at h
    split at h
    · cases h
    · exact (Except.error.inj h).symm
  induction ts generalizing s with
  | nil => exact ⟨s, _, he h⟩
  | cons t ts ih =>
      rw [run] at h
      split at h
      · exact ⟨s, t, he h⟩
      split at h
      · exact ih h
      · exact ⟨s, t, (Except.error.inj h).symm⟩

theorem State.isSyntax_failure (s : State) (t : Token) : (s.failure t).isSyntax = true := by
  rcases s.failure_cases t with ⟨_, h⟩ | ⟨_, h⟩
  · rw [h]
    rfl
  · rw [h]
    rfl

theorem isSyntax_of_parse {text : String} {err : FilterError}
    (h : Expr.parse text = .error err) : err.isSyntax = true := by
  cases ht : tokenize text with
  | error e =>
      obtain ⟨_, _, rfl⟩ := Cursor.unrecognized_of_tokens ht
      rw [Expr.parse, ht] at h
      cases h
      rfl
  | ok us =>
      rw [parse_of_tokenize ht] at h
      obtain ⟨s, t, rfl⟩ := State.failure_of_run h
      exact s.isSyntax_failure t

/-! ### The error of a text -/

section text
variable {text : String} {ts : List Token} {t : Token} (ht : tokenize text = .ok (ts ++ [t]))
include ht

theorem parse_of_not_derives (h : ¬ ∃ e, Derives .expression ts e) :
    ∃ err, Expr.parse text = .error err := by
  cases hp : Expr.parse text with
  | error err => exact ⟨err, rfl⟩
  | ok e => exact absurd ⟨e, (parse_eq_ok_iff_of_tokenize ht).mp hp⟩ h

theorem failure?_ofText {e : Expr} (h : Derives .expression ts e) :
    failure? (Predicate.ofText registry table text) =
      (comparisons ts).findSome? fun c => failure? (c.expr.compile registry table) := by
  rw [ofText_of_parse ((parse_eq_ok_iff_of_tokenize ht).mpr h), h.failure?_compile]

theorem exists_shape_of_mem {e : Expr} (h : Derives .expression ts e) {c : Comparison}
    (hc : c ∈ comparisons ts) : ∃ shape, c.literal.kind = .literal shape ∧
      Lexeme (.literal shape) c.literal.lexeme.toList := by
  obtain ⟨-, s, hr⟩ := tokenize_eq_ok ht
  obtain ⟨hm, shape, hk⟩ := h.literal_mem c hc
  exact ⟨shape, hk, hk ▸ hr.lexemes c.literal hm⟩

theorem compile_eq_error_iff_of_mem {e : Expr} (h : Derives .expression ts e) {c : Comparison}
    (hc : c ∈ comparisons ts) {err : FilterError} :
    c.expr.compile registry table = .error err ↔ c.Faults registry table err := by
  obtain ⟨shape, hk, hl⟩ := exists_shape_of_mem ht h hc
  exact Comparison.compile_eq_error_iff hk hl

end text

theorem not_isSyntax_of_parse {text : String} {e : Expr} {err : FilterError}
    (h : Expr.parse text = .ok e) (he : Predicate.ofText registry table text = .error err) :
    err.isSyntax = false := by
  obtain ⟨ts, t, ht, hd⟩ := exists_derives_of_parse h
  rw [← failure?_eq_some_iff, failure?_ofText ht hd] at he
  obtain ⟨c, hc, he⟩ := List.exists_of_findSome?_eq_some he
  exact ((compile_eq_error_iff_of_mem ht hd hc).mp (failure?_eq_some_iff.mp he)).isSyntax

/-- **Which error wins.**  A text that has no tokens is rejected for these, and one whose tokens
are not derivable for its grammar, whatever else is wrong with them.  Any other text is accepted
if each of its comparisons compiles on its own, and is otherwise rejected with the error that the
leftmost of those that do not gives on its own; this error reports the first fault of the
comparison.  Hence an error is one of the syntax exactly if the text has no tree. -/
theorem ofText_error_wins (registry : Registry ω) (table : FieldTable) (text : String) :
    (∀ err, tokenize text = .error err →
      (∃ found position, err = .unrecognized found position) ∧
        Predicate.ofText registry table text = .error err) ∧
    (∀ ts t, tokenize text = .ok (ts ++ [t]) →
      ((¬ ∃ e, Derives .expression ts e) → ∃ err, Expr.ofTokens (ts ++ [t]) = .error err ∧
        ((∃ expected found, err = .mismatched expected found) ∨
          ∃ expected found, err = .missing expected found) ∧
        Predicate.ofText registry table text = .error err) ∧
      ((∃ e, Derives .expression ts e) →
        ((∃ p, Predicate.ofText registry table text = .ok p) ↔
          ∀ c ∈ comparisons ts, ∃ p, c.expr.compile registry table = .ok p) ∧
        (∀ err, Predicate.ofText registry table text = .error err ↔
          ∃ before c after, comparisons ts = before ++ c :: after ∧
            c.expr.compile registry table = .error err ∧
            ∀ b ∈ before, ∃ p, b.expr.compile registry table = .ok p) ∧
        ∀ c ∈ comparisons ts, ∀ err,
          c.expr.compile registry table = .error err ↔ c.Faults registry table err)) ∧
    ∀ err, Predicate.ofText registry table text = .error err →
      (err.isSyntax = true ↔ ¬ ∃ e, Expr.parse text = .ok e) := by
  refine ⟨fun err ht => ?_, fun ts t ht => ⟨fun hd => ?_, fun ⟨e, hd⟩ => ⟨?_, fun err => ?_, ?_⟩⟩,
    fun err he => ⟨?_, fun hp => ?_⟩⟩
  · refine ⟨Cursor.unrecognized_of_tokens ht, ofText_of_parse_error ?_⟩
    rw [Expr.parse, ht]
    rfl
  · obtain ⟨err, hp⟩ := parse_of_not_derives ht hd
    refine ⟨err, by rwa [parse_of_tokenize ht] at hp, ?_, ofText_of_parse_error hp⟩
    rw [parse_of_tokenize ht] at hp
    obtain ⟨s, u, rfl⟩ := State.failure_of_run hp
    rcases s.failure_cases u with ⟨_, h⟩ | ⟨_, h⟩
    · exact .inl ⟨_, _, h⟩
    · exact .inr ⟨_, _, h⟩
  · rw [← failure?_eq_none_iff, failure?_ofText ht hd, List.findSome?_eq_none_iff]
    simp only [failure?_eq_none_iff]
  · rw [← failure?_eq_some_iff, failure?_ofText ht hd, List.findSome?_eq_some_iff]
    simp only [failure?_eq_none_iff, failure?_eq_some_iff]
  · exact fun c hc err => compile_eq_error_iff_of_mem ht hd hc
  · rintro hs ⟨e, hp⟩
    rw [not_isSyntax_of_parse hp he] at hs
    cases hs
  · cases hp' : Expr.parse text with
    | error err' =>
        rw [ofText_of_parse_error hp'] at he
        cases he
        exact isSyntax_of_parse hp'
    | ok e => exact absurd ⟨e, hp'⟩ hp

/-- A number that is out of range counts before an operator without a meaning and an unknown
field. -/
theorem ofText_group_invalid :
    Predicate.ofText (.empty : Registry) ⟨"point", []⟩ "(a lt 9223372036854775808)" =
      .error (.incompatible "a") := by
  obtain ⟨-, h, -⟩ :=
    ofText_error_wins (.empty : Registry) ⟨"point", []⟩ "(a lt 9223372036854775808)"
  obtain ⟨-, h, -⟩ := (h _ _ tokenize_group).2 ⟨_, .ofConjunction (.ofAtom (.group rfl
    (.ofConjunction (.ofAtom (.comparison rfl rfl rfl (resolves_iff.mpr rfl)))) rfl))⟩
  exact (h _).mpr ⟨[], _, [], rfl, by decide +kernel, by simp⟩

end RecordFilter
