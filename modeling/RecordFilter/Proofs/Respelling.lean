import RecordFilter.Proofs.Compilation
import RecordFilter.Proofs.LetterCase

/-! # Tokens in another spelling

`t.Alike P u` says that two tokens differ at most in the case of their letters, which literals may
not, and in their places, which the relation `P` restricts.  The parser and the compiler keep such a
likeness: they look at the kinds of tokens, at the texts of literals and at what the table makes of
the names of fields, and a place occurs in nothing but an error.  Hence alike lists of tokens are
expressions that are alike, or fail with errors that are (`ofTokens_agree`), and alike expressions
become the same predicate, or fail with errors that are alike (`compile_agree`). -/

namespace RecordFilter

variable {P : Nat → Nat → Prop}

/-! ### Likeness -/

/-- The tokens are of one kind and have the same text but for the case of letters, and exactly the
same if they are literals.  Their places are related by `P`. -/
structure Token.Alike (P : Nat → Nat → Prop) (t u : Token) : Prop where
  kind : t.kind = u.kind
  lexeme : sameName t.lexeme u.lexeme = true
  literal : ∀ shape, t.kind = .literal shape → t.lexeme = u.lexeme
  position : P t.position u.position

/-- The errors have the same cause, and the same data but for the case of the texts that they
repeat and for their places, which are related by `P`. -/
inductive FilterError.Alike (P : Nat → Nat → Prop) : FilterError → FilterError → Prop
  | unrecognized {text text' : String} {p p' : Nat} (ht : sameName text text' = true)
      (hp : P p p') : Alike P (.unrecognized text p) (.unrecognized text' p')
  | mismatched (expected : List TokenKind) {t u : Token} (h : t.Alike P u) :
      Alike P (.mismatched expected t) (.mismatched expected u)
  | missing (expected : TokenKind) {t u : Token} (h : t.Alike P u) :
      Alike P (.missing expected t) (.missing expected u)
  | unknownField {name name' : String} (h : sameName name name' = true)
      (suggestion : Option String) :
      Alike P (.unknownField name suggestion) (.unknownField name' suggestion)
  | incompatible {field field' : String} (h : sameName field field' = true) :
      Alike P (.incompatible field) (.incompatible field')
  | unknownVariant (enum value : String) :
      Alike P (.unknownVariant enum value) (.unknownVariant enum value)
  | unsupportedType (name : String) : Alike P (.unsupportedType name) (.unsupportedType name)
  | unsupportedComparator (op : Comparator) :
      Alike P (.unsupportedComparator op) (.unsupportedComparator op)

/-- Both answers are results, which `R` relates, or both are errors, which are alike. -/
inductive Agree (P : Nat → Nat → Prop) {α β : Type} (R : α → β → Prop) :
    Except FilterError α → Except FilterError β → Prop
  | ok {a : α} {b : β} (h : R a b) : Agree P R (.ok a) (.ok b)
  | error {e f : FilterError} (h : e.Alike P f) : Agree P R (.error e) (.error f)

theorem Agree.bind {α β γ δ : Type} {R : α → β → Prop} {S : γ → δ → Prop}
    {x : Except FilterError α} {y : Except FilterError β} {f : α → Except FilterError γ}
    {g : β → Except FilterError δ} (h : Agree P R x y)
    (hf : ∀ a b, R a b → Agree P S (f a) (g b)) : Agree P S (x >>= f) (y >>= g) := by
  cases h with
  | ok h => exact hf _ _ h
  | error h => exact .error h

theorem Agree.map {α β γ δ : Type} {R : α → β → Prop} {S : γ → δ → Prop}
    {x : Except FilterError α} {y : Except FilterError β} {f : α → γ} {g : β → δ}
    (h : Agree P R x y) (hf : ∀ a b, R a b → S (f a) (g b)) : Agree P S (x.map f) (y.map g) := by
  cases h with
  | ok h => exact .ok (hf _ _ h)
  | error h => exact .error h

/-- Every answer agrees with itself, if its errors tell no place. -/
theorem FilterError.Alike.refl {e : FilterError} (he : e.isSyntax = false) : e.Alike P e := by
  cases e with
  | unrecognized | mismatched | missing => cases he
  | unknownField name suggestion => exact .unknownField (sameName_refl name) suggestion
  | incompatible field => exact .incompatible (sameName_refl field)
  | unknownVariant enum value => exact .unknownVariant enum value
  | unsupportedType name => exact .unsupportedType name
  | unsupportedComparator op => exact .unsupportedComparator op

/-- Literals with the same value, or with the same text and errors that are alike. -/
inductive WrittenLiteral.Alike (P : Nat → Nat → Prop) : WrittenLiteral → WrittenLiteral → Prop
  | valid (l : Literal) : Alike P (.valid l) (.valid l)
  | invalid (text : String) {e f : FilterError} (h : e.Alike P f) :
      Alike P (.invalid text e) (.invalid text f)

/-- Trees that differ in the case of their fields only. -/
inductive Expr.Alike (P : Nat → Nat → Prop) : Expr → Expr → Prop
  | binary (op : Connective) {l l' r r' : Expr} (hl : Expr.Alike P l l')
      (hr : Expr.Alike P r r') : Expr.Alike P (.binary op l r) (.binary op l' r')
  | comparison {field field' : String} (op : Comparator) {value value' : WrittenLiteral}
      (hf : sameName field field' = true) (hv : value.Alike P value') :
      Expr.Alike P (.comparison field op value) (.comparison field' op value')

/-- Groups with the same operands, but for the case of fields. -/
structure Pending.Alike (P : Nat → Nat → Prop) (p q : Pending) : Prop where
  alternatives : Option.Rel (Expr.Alike P) p.alternatives q.alternatives
  conjunction : Option.Rel (Expr.Alike P) p.conjunction q.conjunction

/-- Stages that differ in the case of fields only. -/
inductive Stage.Alike (P : Nat → Nat → Prop) : Stage → Stage → Prop
  | atom : Alike P .atom .atom
  | comparator {field field' : String} (hf : sameName field field' = true) :
      Alike P (.comparator field) (.comparator field')
  | literal {field field' : String} (op : Comparator) (hf : sameName field field' = true) :
      Alike P (.literal field op) (.literal field' op)
  | operand {atom atom' : Expr} (h : atom.Alike P atom') : Alike P (.operand atom) (.operand atom')

/-- States of the parser that differ in the case of fields only. -/
structure State.Alike (P : Nat → Nat → Prop) (s s' : State) : Prop where
  stage : s.stage.Alike P s'.stage
  group : s.group.Alike P s'.group
  outer : List.Forall₂ (Pending.Alike P) s.outer s'.outer

/-! ### Literals -/

/-- The value of a literal depends on its kind and its text alone. -/
theorem Token.Alike.literal_agree {t u : Token} (h : t.Alike P u) {field field' : String}
    (hf : sameName field field' = true) : Agree P Eq (t.literal field) (u.literal field') := by
  unfold Token.literal
  rw [← h.kind]
  cases hk : t.kind with
  | literal shape =>
      rw [← h.literal shape hk]
      cases shape with
      | decimal | date | time =>
          dsimp only
          split
          · exact .ok rfl
          · exact .error (.incompatible hf)
      | text => exact .ok rfl
  | _ => exact .error (.unsupportedType _)

theorem Token.Alike.ofToken {t u : Token} (h : t.Alike P u) {shape : LiteralShape}
    (hk : t.kind = .literal shape) {field field' : String} (hf : sameName field field' = true) :
    (WrittenLiteral.ofToken t field).Alike P (WrittenLiteral.ofToken u field') := by
  have ha := h.literal_agree hf
  unfold WrittenLiteral.ofToken
  rw [h.literal shape hk]
  generalize t.literal field = x at ha ⊢
  generalize u.literal field' = y at ha ⊢
  cases ha with
  | ok he =>
      cases he
      exact .valid _
  | error he => exact .invalid _ he

/-! ### The parser -/

theorem Pending.alike_empty : Pending.empty.Alike P Pending.empty :=
  ⟨.none, .none⟩

theorem Pending.join_alike (op : Connective) {l l' : Option Expr} {r r' : Expr}
    (hl : Option.Rel (Expr.Alike P) l l') (hr : r.Alike P r') :
    (Pending.join op l r).Alike P (Pending.join op l' r') := by
  cases hl with
  | none => exact hr
  | some hl => exact .binary op hl hr

section group
variable {g g' : Pending} {a a' : Expr} (hg : g.Alike P g') (ha : a.Alike P a')
include hg ha

theorem Pending.Alike.conjoin : (g.conjoin a).Alike P (g'.conjoin a') :=
  Pending.join_alike .and hg.conjunction ha

theorem Pending.Alike.close : (g.close a).Alike P (g'.close a') :=
  Pending.join_alike .or hg.alternatives (hg.conjoin ha)

theorem Pending.Alike.extend (op : Connective) : (g.extend a op).Alike P (g'.extend a' op) := by
  cases op with
  | and => exact ⟨hg.alternatives, .some (hg.conjoin ha)⟩
  | or => exact ⟨.some (hg.close ha), .none⟩

end group

namespace State

theorem alike_initial : initial.Alike P initial :=
  ⟨.atom, Pending.alike_empty, .nil⟩

section step
variable {s s' : State} {t u : Token} (h : s.Alike P s')
include h

theorem Alike.expected_eq : s.expected = s'.expected := by
  obtain ⟨stage, group, outer⟩ := s
  obtain ⟨stage', group', outer'⟩ := s'
  obtain ⟨hs, -, ho⟩ := h
  cases hs <;> cases ho <;> rfl

theorem Alike.finish? : Option.Rel (Expr.Alike P) s.finish? s'.finish? := by
  obtain ⟨stage, group, outer⟩ := s
  obtain ⟨stage', group', outer'⟩ := s'
  obtain ⟨hs, hg, ho⟩ := h
  cases hs with
  | operand ha =>
      cases ho with
      | nil => exact .some (hg.close ha)
      | cons => exact .none
  | atom | comparator | literal => exact .none

variable (ht : t.Alike P u)
include ht

/-- A step of the parser keeps the likeness. -/
theorem Alike.take? : Option.Rel (State.Alike P) (s.take? t) (s'.take? u) := by
  obtain ⟨stage, group, outer⟩ := s
  obtain ⟨stage', group', outer'⟩ := s'
  obtain ⟨hs, hg, ho⟩ := h
  have hku := ht.kind
  cases hk : t.kind <;> rw [hk] at hku <;> cases hs <;>
    simp only [State.take?, hk, ← hku] <;> try exact .none
  case connective.operand op a a' ha => exact .some ⟨.atom, hg.extend ha op, ho⟩
  case comparator.comparator op f f' hf => exact .some ⟨.literal op hf, hg, ho⟩
  case identifier.atom => exact .some ⟨.comparator ht.lexeme, hg, ho⟩
  case literal.literal shape f f' op hf =>
    exact .some ⟨.operand (.comparison op hf (ht.ofToken hk hf)), hg, ho⟩
  case leftParen.atom => exact .some ⟨.atom, Pending.alike_empty, .cons hg ho⟩
  case rightParen.operand a a' ha =>
    cases ho with
    | nil => exact .none
    | cons hg' ho => exact .some ⟨.operand (hg.close ha), hg', ho⟩

theorem Alike.failure : (s.failure t).Alike P (s'.failure u) := by
  have he := h.expected_eq
  obtain ⟨stage, group, outer⟩ := s
  obtain ⟨stage', group', outer'⟩ := s'
  obtain ⟨hs, -, ho⟩ := h
  have hku := ht.kind
  have hm : FilterError.Alike P (.mismatched (expected ⟨stage, group, outer⟩) t)
      (.mismatched (expected ⟨stage', group', outer'⟩) u) := by
    rw [he]
    exact .mismatched _ ht
  cases hs with
  | atom | comparator | literal => exact hm
  | operand ha =>
      cases ho with
      | nil => exact hm
      | cons hg ho =>
          cases hk : t.kind <;> rw [hk] at hku <;> simp only [State.failure, hk, ← hku]
          case endOfInput => exact .missing _ ht
          all_goals exact hm

theorem Alike.ended : Agree P (Expr.Alike P) (s.ended t) (s'.ended u) := by
  have hf := h.finish?
  unfold State.ended
  generalize s.finish? = x at hf ⊢
  generalize s'.finish? = y at hf ⊢
  cases hf with
  | none => exact .error (h.failure ht)
  | some he => exact .ok he

end step

theorem Alike.run (hP : P 0 0) {s s' : State} (h : s.Alike P s') {ts us : List Token}
    (ht : List.Forall₂ (Token.Alike P) ts us) :
    Agree P (Expr.Alike P) (s.run ts) (s'.run us) := by
  induction ht generalizing s s' with
  | nil => exact h.ended ⟨rfl, rfl, fun _ _ => rfl, hP⟩
  | @cons t u ts us ht _ ih =>
      rw [State.run, State.run, ← ht.kind]
      split
      · exact h.ended ht
      · have hs := h.take? ht
        generalize s.take? t = x at hs ⊢
        generalize s'.take? u = y at hs ⊢
        cases hs with
        | none => exact .error (h.failure ht)
        | some hs => exact ih hs

end State

theorem ofTokens_agree (hP : P 0 0) {ts us : List Token}
    (h : List.Forall₂ (Token.Alike P) ts us) :
    Agree P (Expr.Alike P) (Expr.ofTokens ts) (Expr.ofTokens us) :=
  State.alike_initial.run hP h

/-! ### The compiler -/

section compiler
variable {ω : Type} [Operation ω] (registry : Registry ω) (table : FieldTable)

theorem comparison_agree {name name' : String} (h : sameName name name' = true) (operation : ω)
    (l : Literal) :
    Agree P Eq (table.comparison name operation l) (table.comparison name' operation l) := by
  unfold FieldTable.comparison
  rw [lookup_eq_of_sameName h, suggest_eq_of_sameName h]
  split
  · exact .error (.unknownField h _)
  · next f _ =>
      cases hp : f.type.predicate operation f.name l with
      | ok p => exact .ok rfl
      | error e => exact .error (.refl (predicate_eq_error_iff.mp hp).isSyntax)

/-- Alike expressions become the same predicate, or fail alike. -/
theorem compile_agree {e e' : Expr} (h : e.Alike P e') :
    Agree P Eq (e.compile registry table) (e'.compile registry table) := by
  induction h with
  | binary op _ _ ihl ihr =>
      refine ihl.bind fun q q' hq => ihr.bind fun r r' hr => ?_
      rw [hq, hr]
      exact .ok rfl
  | comparison op hf hv =>
      cases hv with
      | invalid text he => exact .error he
      | valid l =>
          rw [compile_valid, compile_valid]
          cases registry.meaning op with
          | none => exact .error (.unsupportedComparator op)
          | some meaning => exact comparison_agree table hf meaning l

end compiler

end RecordFilter
