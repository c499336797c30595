import RecordFilter.Proofs.Compilation
import RecordFilter.Proofs.Stepping
import RecordFilter.Record

/-! # Filters put together from filters

Texts of filters can be put in parentheses and joined by connectives.  No token goes on over the
seams, as these are parentheses and spaces (`Laid.append`), and the tokens of a text can stand
anywhere (`Laid.shift`, `Derives.shift`).  `Phrase.HasText` says so of a text and its tree, whence
the parser reads composed texts as composed trees (`parse_composed`).

Where `OR` joins two texts without parentheses, the alternatives of the second one are taken into
the group of the first one, one by one: `Expr.Joins` tells how the tree is put together then.  As
disjunction is associative, its meaning is that of the two filters (`Expr.Joins.compile`). -/

namespace RecordFilter

/-! ### Tokens at another place -/

theorem Laid.shift {start : Nat} {cs : List Char} {ts : List Token} (h : Laid start cs ts)
    (n : Nat) : Laid (start + n) cs (ts.map (Token.shift n)) := by
  induction h with
  | blanks hb => exact .blanks hb
  | @token start blanks lexeme after kind ts hb hl hs _ ih =>
      have hp : start + n + byteLength blanks = start + byteLength blanks + n :=
        Nat.add_right_comm _ _ _
      have hr : start + n + byteLength blanks + byteLength lexeme =
          start + byteLength blanks + byteLength lexeme + n := by omega
      rw [← hr] at ih
      have hl' := Laid.token hb hl hs ih
      rw [hp] at hl'
      exact hl'

theorem Derives.shift {p : Phrase} {ts : List Token} {e : Expr} (h : Derives p ts e) (n : Nat) :
    Derives p (ts.map (Token.shift n)) e := by
  induction h with
  | @comparison f o l op shape value hf ho hl hv =>
      have hv' : Resolves (l.shift n) f.lexeme value := by
        rw [resolves_iff.mp hv]
        exact resolves_iff.mpr rfl
      exact .comparison (f := f.shift n) (o := o.shift n) (l := l.shift n) hf ho hl hv'
  | @group q r ts e hq _ hr ih =>
      rw [List.map_append, List.map_cons]
      exact .group (p := q.shift n) (q := r.shift n) hq ih hr
  | ofAtom _ ih => exact .ofAtom ih
  | @and ts us c l r _ hc _ ihl ihr =>
      rw [List.map_append, List.map_cons]
      exact .and (c := c.shift n) ihl hc ihr
  | ofConjunction _ ih => exact .ofConjunction ih
  | @or ts us c l r _ hc _ ihl ihr =>
      rw [List.map_append, List.map_cons]
      exact .or (c := c.shift n) ihl hc ihr

/-! ### Texts behind one another -/

theorem Laid.blanks_append {start : Nat} {blanks cs : List Char} {ts : List Token}
    (hb : AllBlank blanks) (h : Laid (start + byteLength blanks) cs ts) :
    Laid start (blanks ++ cs) ts := by
  have hbb {cs : List Char} (hc : AllBlank cs) : AllBlank (blanks ++ cs) := fun c hm =>
    (List.mem_append.mp hm).elim (hb c) (hc c)
  cases h with
  | blanks hb' => exact .blanks (hbb hb')
  | @token _ blanks' lexeme after kind ts hb' hl hs hr =>
      have he : start + byteLength blanks + byteLength blanks' =
          start + byteLength (blanks ++ blanks') := by rw [byteLength_append, Nat.add_assoc]
      rw [he] at hr ⊢
      rw [← List.append_assoc]
      exact .token (hbb hb') hl hs hr

/-- The tokens of two texts are those of the one behind the other, if all tokens end in front of
the second one. -/
theorem Laid.append {start : Nat} {cs ds : List Char} {ts us : List Token} (h : Laid start cs ts)
    (hs : ∀ k : TokenKind, k.Stops ds) (h' : Laid (start + byteLength cs) ds us) :
    Laid start (cs ++ ds) (ts ++ us) := by
  induction h with
  | blanks hb => exact h'.blanks_append hb
  | @token start blanks lexeme after kind ts hb hl hk _ ih =>
      simp only [byteLength_append, ← Nat.add_assoc] at h'
      rw [List.append_assoc, List.append_assoc]
      exact .token hb hl (TokenKind.stops_append_iff.mpr ⟨hk, fun _ => hs kind⟩) (ih h')

/-! ### Texts of phrases -/

/-- `n.HasText cs e`: wherever the text `cs` stands, its tokens are derivable from `n` with the
tree `e`. -/
def Phrase.HasText (n : Phrase) (cs : List Char) (e : Expr) : Prop :=
  ∀ start, ∃ ts, Laid start cs ts ∧ Derives n ts e

theorem parse_of_laid {s : String} {ts : List Token} {e : Expr} (hl : Laid 0 s.toList ts)
    (h : Derives .expression ts e) : Expr.parse s = .ok e :=
  (parse_eq_ok_iff_of_tokenize (tokenize_eq_ok_iff_laid.mpr ⟨ts, rfl, hl⟩)).mpr h

theorem parse_eq_ok_iff_hasText {s : String} {e : Expr} :
    Expr.parse s = .ok e ↔ Phrase.expression.HasText s.toList e := by
  constructor
  · intro h start
    obtain ⟨ts, t, ht, hd⟩ := exists_derives_of_parse h
    obtain ⟨us, he, hl⟩ := tokenize_eq_ok_iff_laid.mp ht
    obtain rfl := (List.append_inj' he rfl).1
    have hl' := hl.shift start
    rw [Nat.zero_add] at hl'
    exact ⟨_, hl', hd.shift start⟩
  · intro h
    obtain ⟨ts, hl, hd⟩ := h 0
    exact parse_of_laid hl hd

theorem Phrase.HasText.group {cs : List Char} {e : Expr} (h : Phrase.expression.HasText cs e) :
    Phrase.atom.HasText ('(' :: (cs ++ [')'])) e := by
  intro start
  let inner := start + byteLength [] + byteLength ['(']
  obtain ⟨ts, hl, hd⟩ := h inner
  have hq : Laid (inner + byteLength cs) [')'] [⟨.rightParen, ")", inner + byteLength cs⟩] :=
    .token allBlank_nil .rightParen (TokenKind.stops_nil _) (.blanks allBlank_nil)
  have hc : Laid inner (cs ++ [')']) _ := hl.append (fun _ => stops_rightParen []) hq
  have hp : TokenKind.leftParen.Stops (cs ++ [')']) := fun _ _ => rfl
  exact ⟨_, .token allBlank_nil .leftParen hp hc, .group rfl hd rfl⟩

theorem Phrase.HasText.laid_joined {m n : Phrase} {cs ds : List Char} {e f : Expr}
    (hl : m.HasText cs e) (hr : n.HasText ds f) (op : Connective) (start : Nat) :
    ∃ ts c us, Laid start (cs ++ ' ' :: (op.label.toList ++ ' ' :: ds)) (ts ++ c :: us) ∧
      c.kind = .connective op ∧ Derives m ts e ∧ Derives n us f := by
  obtain ⟨ts, hl, hd⟩ := hl start
  let stop := start + byteLength cs + byteLength [' '] + byteLength op.label.toList
  obtain ⟨us, hr, hd'⟩ := hr (stop + byteLength [' '])
  have hr' : Laid stop (' ' :: ds) us := hr.blanks_append allBlank_space
  have hc : Laid (start + byteLength cs) ([' '] ++ (op.label.toList ++ ' ' :: ds)) _ :=
    .token allBlank_space op.lexeme_label (stops_space ds) hr'
  exact ⟨ts, _, us, hl.append (fun _ => stops_space _) hc, rfl, hd, hd'⟩

theorem Phrase.HasText.binary {cs ds : List Char} {e f : Expr} (hl : Phrase.atom.HasText cs e)
    (hr : Phrase.atom.HasText ds f) (op : Connective) :
    Phrase.expression.HasText (cs ++ ' ' :: (op.label.toList ++ ' ' :: ds)) (.binary op e f) := by
  intro start
  obtain ⟨ts, c, us, h, hc, hd, hd'⟩ := hl.laid_joined hr op start
  exact ⟨_, h, hd.binary hc hd'⟩

/-! ### Alternatives without parentheses -/

/-- `e.Joins f g`: the tree `g` joins `e` and `f` by `OR`, where alternatives at the root of `f`
may be taken apart and joined to `e` from the left on. -/
inductive Expr.Joins (e : Expr) : Expr → Expr → Prop
  | whole (f : Expr) : Expr.Joins e f (.binary .or e f)
  | within {l g : Expr} (h : Expr.Joins e l g) (r : Expr) :
      Expr.Joins e (.binary .or l r) (.binary .or g r)

/-- Two expressions around `OR` are an expression.  The induction is on the derivation of the
second one, whose last alternative becomes the last one of the whole. -/
theorem Derives.joins {ts us : List Token} {c : Token} {e f : Expr}
    (hl : Derives .expression ts e) (hc : c.kind = .connective .or)
    (hr : Derives .expression us f) :
    ∃ g, Derives .expression (ts ++ c :: us) g ∧ e.Joins f g := by
  generalize hn : Phrase.expression = n at hr
  induction hr with
  | comparison | group | ofAtom | and => cases hn
  | ofConjunction hr => exact ⟨_, .or hl hc hr, .whole _⟩
  | @or us vs d l r _ hd hr ih _ =>
      obtain ⟨g, hg, hj⟩ := ih hn
      refine ⟨.binary .or g r, ?_, hj.within r⟩
      have h := Derives.or hg hd hr
      rwa [List.append_assoc, List.cons_append] at h

theorem Expr.Joins.compile {ω : Type} [Operation ω] {registry : Registry ω} {table : FieldTable}
    {e f g : Expr} {p q : Predicate} (h : e.Joins f g) (hp : e.compile registry table = .ok p)
    (hq : f.compile registry table = .ok q) : ∃ r, g.compile registry table = .ok r ∧
      ∀ value, r.holds value = (p.holds value || q.holds value) := by
  induction h generalizing q with
  | whole f => exact ⟨_, compile_binary_eq_ok_iff.mpr ⟨p, q, hp, hq, rfl⟩, fun _ => rfl⟩
  | within _ r ih =>
      obtain ⟨q₁, q₂, h₁, h₂, rfl⟩ := compile_binary_eq_ok_iff.mp hq
      obtain ⟨r₁, hr, hv⟩ := ih h₁
      refine ⟨_, compile_binary_eq_ok_iff.mpr ⟨r₁, q₂, hr, h₂, rfl⟩, fun value => ?_⟩
      change (r₁.holds value || q₂.holds value) =
        (p.holds value || (q₁.holds value || q₂.holds value))
      rw [hv, Bool.or_assoc]

/-! ### Composed filters -/

/-- **Filters compose as texts.**  Of two texts that are read as trees, the texts that join them in
parentheses by `AND` or `OR` are read as the trees that join these, and a text in parentheses is
read as without them.  Joined by `OR` without parentheses the texts are read as a tree, too; for
every registry and table for which both trees compile it does, to a predicate that accepts the
records that one of theirs accepts. -/
theorem parse_composed {s t : String} {e f : Expr} (hs : Expr.parse s = .ok e)
    (ht : Expr.parse t = .ok f) :
    Expr.parse ("(" ++ s ++ ") AND (" ++ t ++ ")") = .ok (.binary .and e f) ∧
    Expr.parse ("(" ++ s ++ ") OR (" ++ t ++ ")") = .ok (.binary .or e f) ∧
    Expr.parse ("(" ++ s ++ ")") = .ok e ∧
    ∃ g, Expr.parse (s ++ " OR " ++ t) = .ok g ∧
      ∀ {ω : Type} [Operation ω] (registry : Registry ω) table p q,
        e.compile registry table = .ok p → f.compile registry table = .ok q →
          ∃ r, g.compile registry table = .ok r ∧
            ∀ (α : Type) [Record α] (x : α), r.matches x = (p.matches x || q.matches x) := by
  rw [parse_eq_ok_iff_hasText] at hs ht
  refine ⟨?_, ?_, ?_, ?_⟩
  · rw [parse_eq_ok_iff_hasText]
    simpa [Connective.label] using hs.group.binary ht.group .and
  · rw [parse_eq_ok_iff_hasText]
    simpa [Connective.label] using hs.group.binary ht.group .or
  · obtain ⟨ts, hl, hd⟩ := hs.group 0
    exact parse_of_laid (by simpa using hl) hd.ofAtom'
  · obtain ⟨ts, c, us, hl, hc, hd, hd'⟩ := hs.laid_joined ht .or 0
    obtain ⟨g, hg, hj⟩ := hd.joins hc hd'
    refine ⟨g, parse_of_laid (by simpa [Connective.label] using hl) hg, ?_⟩
    intro ω _ registry table p q hp hq
    obtain ⟨r, hr, hv⟩ := hj.compile hp hq
    exact ⟨r, hr, fun _ _ x => hv (Record.value x)⟩

/-- In parentheses a disjunction stays one operand of `AND`.  Without them it can be joined by `OR`
to another text all the same. -/
theorem parse_composed_groups :
    Expr.parse "((a lt 7)) AND (((b gt -7)) OR ((c ne 'x')))" =
      .ok (.binary .and (.comparison "a" .lt (.valid (.integer 7)))
        (.binary .or (.comparison "b" .gt (.valid (.integer (-7))))
          (.comparison "c" .ne (.valid (.text "x"))))) ∧
    ∃ g, Expr.parse "(a lt 7) OR ((b gt -7)) OR ((c ne 'x'))" = .ok g := by
  have ha : Expr.parse "(a lt 7)" = .ok (.comparison "a" .lt (.valid (.integer 7))) := by
    refine parse_display (e := .comparison "a" .lt (.valid (.integer 7))) ⟨?_, trivial⟩
    decide +kernel
  have hb : Expr.parse "(b gt -7)" = .ok (.comparison "b" .gt (.valid (.integer (-7)))) := by
    refine parse_display (e := .comparison "b" .gt (.valid (.integer (-7)))) ⟨?_, trivial⟩
    decide +kernel
  have hc : Expr.parse "(c ne 'x')" = .ok (.comparison "c" .ne (.valid (.text "x"))) := by
    refine parse_display (e := .comparison "c" .ne (.valid (.text "x"))) ⟨?_, ?_⟩
    · decide +kernel
    · exact wellFormed_text (by decide) (by decide)
  have hbc : Expr.parse "((b gt -7)) OR ((c ne 'x'))" = _ := (parse_composed hb hc).2.1
  obtain ⟨hand, -, -, g, hg, -⟩ := parse_composed ha hbc
  exact ⟨hand, g, hg⟩

end RecordFilter
