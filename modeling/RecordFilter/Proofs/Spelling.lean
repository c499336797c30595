import RecordFilter.Proofs.Respelling
import RecordFilter.Proofs.Tiling
import RecordFilter.Record

/-! # Layout and letter case

A filter can be laid out and spelled in many ways.  `Respaced ts cs` says that the text `cs` has
the words of the tokens `ts`, in any case unless they are literals, with white space between any
two of them, and `Recased cs ds` that two texts differ only in the case of letters that stand
outside of quotes.

Recasing changes neither where a token ends nor its kind (`front_alike`), and quoted literals stay
as they are, so that one step of the cursor reads alike tokens (`Cursor.next_alike`) and by
induction all of its steps do (`Cursor.tokens_agree`).  A text that is laid out anew is read as its
tokens were, at other places (`Respaced.laid`).  The parser and the compiler do the rest
(`ofText_of_spelling`). -/

namespace RecordFilter

/-! ### Texts in other case -/

/-- `Recased cs ds`: the texts differ in the case of ASCII letters only, and these stand outside
of quoted literals.  A quote that nothing closes begins no literal. -/
inductive Recased : List Char → List Char → Prop
  | nil : Recased [] []
  | cons {c d : Char} {cs ds : List Char} (hc : c ≠ '\'') (h : c.toLower = d.toLower)
      (hr : Recased cs ds) : Recased (c :: cs) (d :: ds)
  | quoted {content cs ds : List Char} (hq : '\'' ∉ content) (hr : Recased cs ds) :
      Recased ('\'' :: content ++ '\'' :: cs) ('\'' :: content ++ '\'' :: ds)
  | unclosed {cs ds : List Char} (hq : '\'' ∉ cs) (h : SameLetters cs ds) :
      Recased ('\'' :: cs) ('\'' :: ds)

theorem SameLetters.not_mem_quote {cs ds : List Char} (h : SameLetters cs ds)
    (hq : '\'' ∉ cs) : '\'' ∉ ds := by
  induction h with
  | nil => exact hq
  | cons hc _ ih =>
      rw [List.mem_cons, not_or, eq_comm] at hq ⊢
      exact ⟨mt (eq_iff_of_toLower_eq (by decide) hc).mpr hq.1, ih hq.2⟩

/-- A run of characters of a class ends at the same place in both texts, unless it goes on into a
literal. -/
theorem Recased.span {cs ds : List Char} (h : Recased cs ds) {p : Char → Bool}
    (hp : IgnoresCase p) (hq : p '\'' = false) :
    SameLetters (cs.takeWhile p) (ds.takeWhile p) ∧
      Recased (cs.dropWhile p) (ds.dropWhile p) := by
  induction h with
  | nil => exact ⟨.nil, .nil⟩
  | @cons c d cs ds hc h hr ih =>
      rw [List.takeWhile_cons, List.takeWhile_cons, List.dropWhile_cons, List.dropWhile_cons,
        ← hp c d h]
      split
      · exact ⟨.cons h ih.1, ih.2⟩
      · exact ⟨.nil, .cons hc h hr⟩
  | quoted hq' hr => simpa [hq] using ⟨SameLetters.refl [], Recased.quoted hq' hr⟩
  | unclosed hq' h => simpa [hq] using ⟨SameLetters.refl [], Recased.unclosed hq' h⟩

/-- What stands at the front of two texts is a token of one kind, or no token in either. -/
inductive Front.Alike : Front → Front → Prop
  | token {kind : TokenKind} {lexeme lexeme' after after' : List Char}
      (hl : SameLetters lexeme lexeme') (he : ∀ shape, kind = .literal shape → lexeme = lexeme')
      (hr : Recased after after') :
      Front.Alike (.token kind lexeme after) (.token kind lexeme' after')
  | fault {text text' : List Char} (after after' : List Char) (h : SameLetters text text') :
      Front.Alike (.fault text after) (.fault text' after')
  | done : Front.Alike .done .done

theorem wordKind_ne_literal (w : List Char) (shape : LiteralShape) :
    wordKind w ≠ .literal shape := by
  rcases wordKind_cases w with h | ⟨_, h⟩ | ⟨_, h⟩ <;> rw [h] <;> simp

theorem front_alike {cs ds : List Char} (h : Recased cs ds) : (front cs).Alike (front ds) := by
  cases h with
  | nil => exact .done
  | @quoted content cs ds hq hr =>
      have hf : ∀ after, frontQuoted (content ++ '\'' :: after) =
          .token (.literal (quotedShape content)) ('\'' :: content ++ ['\'']) after := by
        intro after
        exact frontQuoted_eq_token_iff.mpr ⟨content, hq, rfl, rfl, rfl⟩
      rw [List.cons_append, List.cons_append, front_quote, front_quote, hf, hf]
      exact .token (.refl _) (fun _ _ => rfl) hr
  | @unclosed cs ds hq h =>
      rw [front_quote, front_quote, frontQuoted_of_unclosed hq,
        frontQuoted_of_unclosed (h.not_mem_quote hq)]
      exact .fault _ _ (.cons rfl h)
  | @cons c d cs ds hq h hr =>
      -- the first characters decide alike, so that both texts take the same branch
      have hl : c = '(' ↔ d = '(' := eq_iff_of_toLower_eq (by decide) h
      have hr' : c = ')' ↔ d = ')' := eq_iff_of_toLower_eq (by decide) h
      have hm : c = '-' ↔ d = '-' := eq_iff_of_toLower_eq (by decide) h
      have hq' : d ≠ '\'' := mt (eq_iff_of_toLower_eq (by decide) h).mpr hq
      obtain ⟨hdt, hdd⟩ := hr.span ignoresCase_isDigit rfl
      obtain ⟨hwt, hwd⟩ := hr.span ignoresCase_continuesWord (by decide +kernel)
      have hdigits : cs.takeWhile Char.isDigit = ds.takeWhile Char.isDigit :=
        hdt.eq_of_isDigit fun _ hm => List.mem_takeWhile_imp hm
      have hword : SameLetters (c :: cs.takeWhile continuesWord)
          (d :: ds.takeWhile continuesWord) := .cons h hwt
      rw [front, front]
      by_cases h₁ : c = '('
      · rw [if_pos h₁, if_pos (hl.mp h₁), h₁, hl.mp h₁]
        exact .token (.refl _) (fun _ _ => rfl) hr
      rw [if_neg h₁, if_neg (mt hl.mpr h₁)]
      by_cases h₂ : c = ')'
      · rw [if_pos h₂, if_pos (hr'.mp h₂), h₂, hr'.mp h₂]
        exact .token (.refl _) (fun _ _ => rfl) hr
      rw [if_neg h₂, if_neg (mt hr'.mpr h₂), if_neg hq, if_neg hq']
      by_cases h₃ : c = '-'
      · rw [if_pos h₃, if_pos (hm.mp h₃), h₃, hm.mp h₃, hdigits]
        split
        · exact .fault _ _ (.refl _)
        · exact .token (.refl _) (fun _ _ => rfl) hdd
      rw [if_neg h₃, if_neg (mt hm.mpr h₃), ← ignoresCase_isDigit c d h,
        ← ignoresCase_beginsWord c d h]
      by_cases h₄ : c.isDigit = true
      · rw [if_pos h₄, if_pos h₄, ← RecordFilter.eq_of_isDigit h₄ h, hdigits]
        exact .token (.refl _) (fun _ _ => rfl) hdd
      rw [if_neg h₄, if_neg h₄]
      by_cases h₅ : beginsWord c = true
      · rw [if_pos h₅, if_pos h₅]
        dsimp only
        rw [hword.wordKind_eq]
        exact .token hword (fun shape hk => absurd hk (wordKind_ne_literal _ shape)) hwd
      rw [if_neg h₅, if_neg h₅]
      exact .fault _ _ (.cons h .nil)

/-! ### Reading a text in other case -/

/-- Cursors at the same place in front of texts that differ in case only. -/
structure Cursor.Alike (s s' : Cursor) : Prop where
  rest : Recased s.rest s'.rest
  offset : s.offset = s'.offset

/-- What a step of the cursor yields: alike tokens and what is left of the texts, or alike
errors. -/
inductive Cursor.StepsAlike :
    Except FilterError Token × Cursor → Except FilterError Token × Cursor → Prop
  | token {t u : Token} {s s' : Cursor} (ht : t.Alike Eq u) (hs : s.Alike s') :
      StepsAlike (.ok t, s) (.ok u, s')
  | error {e f : FilterError} (s s' : Cursor) (he : e.Alike Eq f) :
      StepsAlike (.error e, s) (.error f, s')

theorem Cursor.next_alike {s s' : Cursor} (h : s.Alike s') : StepsAlike s.next s'.next := by
  obtain ⟨cs, n⟩ := s
  obtain ⟨ds, m⟩ := s'
  obtain ⟨hr, hn⟩ := h
  change n = m at hn
  subst hn
  obtain ⟨hb, hd⟩ := hr.span ignoresCase_isBlank (by decide)
  have hf := front_alike hd
  unfold next
  simp only [hb.byteLength_eq]
  generalize front (cs.dropWhile isBlank) = x at hf ⊢
  generalize front (ds.dropWhile isBlank) = y at hf ⊢
  cases hf with
  | @token kind lexeme lexeme' after after' hl he hr =>
      refine .token ⟨rfl, sameName_ofList_iff.mpr hl, fun shape hk => ?_, rfl⟩ ⟨hr, ?_⟩
      · exact congrArg String.ofList (he shape hk)
      · rw [hl.byteLength_eq]
  | fault _ _ ht => exact .error _ _ (.unrecognized (sameName_ofList_iff.mpr ht) rfl)
  | done => exact .token ⟨rfl, sameName_refl _, fun _ _ => rfl, rfl⟩ ⟨.nil, rfl⟩

/-- Alike texts are read as alike tokens, at the same places, or have the same fault. -/
theorem Cursor.tokens_agree {s s' : Cursor} (h : s.Alike s') :
    Agree Eq (List.Forall₂ (Token.Alike Eq)) s.tokens s'.tokens := by
  fun_induction tokens s generalizing s' with
  | case1 s e s₁ hn =>
      have hs := next_alike h
      rw [hn] at hs
      generalize hn' : s'.next = y at hs
      cases hs with
      | error _ _ he =>
          rw [tokens_of_error hn']
          exact .error he
  | case2 s t s₁ hn ht =>
      have hs := next_alike h
      rw [hn] at hs
      generalize hn' : s'.next = y at hs
      cases hs with
      | token hu _ =>
          rw [tokens_of_ending hn' (hu.kind ▸ ht)]
          exact .ok (.cons hu .nil)
  | case3 s t s₁ hn ht ih =>
      have hs := next_alike h
      rw [hn] at hs
      generalize hn' : s'.next = y at hs
      cases hs with
      | token hu hs =>
          rw [tokens_of_token hn' (hu.kind ▸ ht)]
          exact (ih hs).map fun _ _ hts => .cons hu hts

theorem tokenize_agree {text text' : String} (h : Recased text.toList text'.toList) :
    Agree Eq (List.Forall₂ (Token.Alike Eq)) (tokenize text) (tokenize text') :=
  Cursor.tokens_agree ⟨h, rfl⟩

/-! ### Texts that are laid out anew -/

/-- The text may stand for the token: it is the text of the token, which may be in other case
unless the token is a literal. -/
structure Token.Spells (t : Token) (w : List Char) : Prop where
  letters : SameLetters t.lexeme.toList w
  literal : ∀ shape, t.kind = .literal shape → t.lexeme.toList = w

/-- `Respaced ts cs`: the text `cs` consists of words that stand for the tokens `ts` in turn and of
white space, which may stand anywhere around the words and does stand between any two of them. -/
inductive Respaced : List Token → List Char → Prop
  | blanks {cs : List Char} (hb : AllBlank cs) : Respaced [] cs
  | token {t : Token} {ts : List Token} {blanks w rest : List Char} (hb : AllBlank blanks)
      (hw : t.Spells w) (hs : ts ≠ [] → ∃ c ∈ rest.head?, isBlank c = true)
      (hr : Respaced ts rest) : Respaced (t :: ts) (blanks ++ (w ++ rest))

theorem SameLetters.eq_singleton {x : Char} {bs : List Char} (h : SameLetters [x] bs)
    (hx : x ∉ capitals ++ capitals.map Char.toLower) : bs = [x] := by
  cases h with
  | cons hc hs =>
      cases hs
      rw [(eq_iff_of_toLower_eq hx hc).mp rfl]

theorem Lexeme.of_sameLetters {kind : TokenKind} {as bs : List Char} (hl : Lexeme kind as)
    (h : SameLetters as bs) (he : ∀ shape, kind = .literal shape → as = bs) : Lexeme kind bs := by
  cases hl with
  | leftParen =>
      rw [h.eq_singleton (by decide)]
      exact .leftParen
  | rightParen =>
      rw [h.eq_singleton (by decide)]
      exact .rightParen
  | quoted hq =>
      rw [← he _ rfl]
      exact .quoted hq
  | decimal hne hd =>
      rw [← he _ rfl]
      exact .decimal hne hd
  | negative hne hd =>
      rw [← he _ rfl]
      exact .negative hne hd
  | word hc hcs =>
      rw [h.wordKind_eq]
      cases h with
      | cons hcd hs =>
          refine .word ((ignoresCase_beginsWord _ _ hcd).symm.trans hc) ?_
          exact SameLetters.forall_of_ignoresCase hs ignoresCase_continuesWord hcs

theorem TokenKind.stops_of_blank {k : TokenKind} {cs : List Char}
    (h : ∀ c ∈ cs.head?, isBlank c = true) : k.Stops cs := by
  cases cs with
  | nil => exact fun _ h => nomatch h
  | cons c cs =>
      have hb := h c rfl
      have hd : c.isDigit = false := by
        refine Bool.eq_false_iff.mpr fun hd => ?_
        rw [isBlank_of_isDigit hd] at hb
        cases hb
      exact TokenKind.stops_cons hd (continuesWord_of_isBlank hb)

/-- A text that is laid out anew is read as tokens that stand for the old ones. -/
theorem Respaced.laid {ts : List Token} {cs : List Char} (h : Respaced ts cs)
    (hts : ∀ t ∈ ts, Lexeme t.kind t.lexeme.toList) (start : Nat) : ∃ us, Laid start cs us ∧
      List.Forall₂ (Token.Alike fun _ _ => True) ts us := by
  induction h generalizing start with
  | blanks hb => exact ⟨[], .blanks hb, .nil⟩
  | @token t ts blanks w rest hb hw hs hr ih =>
      obtain ⟨ht, hts⟩ := List.forall_mem_cons.mp hts
      obtain ⟨us, hl, ha⟩ := ih hts (start + byteLength blanks + byteLength w)
      have hstop : t.kind.Stops rest := by
        refine TokenKind.stops_of_blank fun c hc => ?_
        cases hr with
        | blanks hb => exact hb c (List.mem_of_mem_head? hc)
        | token =>
            obtain ⟨d, hd, hbd⟩ := hs (List.cons_ne_nil _ _)
            rw [Option.mem_unique hc hd]
            exact hbd
      refine ⟨_, .token hb (ht.of_sameLetters hw.letters hw.literal) hstop hl, .cons ?_ ha⟩
      refine ⟨rfl, ?_, fun shape hk => ?_, trivial⟩
      · rw [sameName_iff, String.toList_ofList]
        exact hw.letters
      · rw [← hw.literal shape hk, String.ofList_toList]

theorem tokenize_of_respaced {text text' : String} {ts : List Token}
    (h : tokenize text = .ok (ts ++ [.ending text.utf8ByteSize]))
    (hr : Respaced ts text'.toList) : ∃ us, tokenize text' = .ok us ∧
      List.Forall₂ (Token.Alike fun _ _ => True) (ts ++ [.ending text.utf8ByteSize]) us := by
  obtain ⟨-, s', hreads⟩ := tokenize_eq_ok h
  obtain ⟨us, hl, ha⟩ := hr.laid hreads.lexemes 0
  refine ⟨_, Cursor.tokens_of_laid hl, ?_⟩
  exact List.rel_append ha (.cons ⟨rfl, sameName_refl _, fun _ _ => rfl, trivial⟩ .nil)

/-! ### What the text stands for -/

variable {ω : Type} [Operation ω] {registry : Registry ω} {table : FieldTable}

theorem compile_ofTokens_agree {P : Nat → Nat → Prop} (hP : P 0 0) {ts us : List Token}
    (h : List.Forall₂ (Token.Alike P) ts us) :
    Agree P Eq (Expr.ofTokens ts >>= (·.compile registry table))
      (Expr.ofTokens us >>= (·.compile registry table)) :=
  (ofTokens_agree hP h).bind fun _ _ he => compile_agree registry table he

theorem ofText_eq_bind (text : String) : Predicate.ofText registry table text =
    tokenize text >>= fun ts => Expr.ofTokens ts >>= (·.compile registry table) := by
  rw [Predicate.ofText, Expr.parse]
  cases tokenize text <;> rfl

theorem ofText_agree {text text' : String} (h : Recased text.toList text'.toList) :
    Agree Eq Eq (Predicate.ofText registry table text) (Predicate.ofText registry table text') := by
  rw [ofText_eq_bind, ofText_eq_bind]
  exact (tokenize_agree h).bind fun _ _ hts => compile_ofTokens_agree rfl hts

theorem ofText_of_respaced {text text' : String} {ts : List Token} {p : Predicate}
    (ht : tokenize text = .ok (ts ++ [.ending text.utf8ByteSize]))
    (h : Predicate.ofText registry table text = .ok p) (hr : Respaced ts text'.toList) :
    Predicate.ofText registry table text' = .ok p := by
  obtain ⟨us, hu, ha⟩ := tokenize_of_respaced ht hr
  have hagree : Agree (fun _ _ => True) Eq
      (Expr.ofTokens (ts ++ [.ending text.utf8ByteSize]) >>= (·.compile registry table))
      (Expr.ofTokens us >>= (·.compile registry table)) := compile_ofTokens_agree trivial ha
  rw [ofText_eq_bind, ht] at h
  rw [ofText_eq_bind, hu]
  change Expr.ofTokens _ >>= _ = _ at h
  rw [h] at hagree
  change Expr.ofTokens us >>= _ = _
  generalize Expr.ofTokens us >>= _ = y at hagree ⊢
  cases hagree with
  | ok he => rw [he]

/-- **Layout and letter case do not matter.**  A filter that stands for a predicate also does so
when its tokens are written anew, keywords and names of fields in any case, with any white space
around them and some between any two.  When letters outside of quoted literals change their case,
a filter still stands for the same predicate, or it still fails, for the same reason, at the same
place, and with the same kinds of token expected there. -/
theorem ofText_of_spelling (registry : Registry ω) (table : FieldTable) (text : String) :
    (∀ p, Predicate.ofText registry table text = .ok p →
      ∃ ts, tokenize text = .ok (ts ++ [.ending text.utf8ByteSize]) ∧
        ∀ text', Respaced ts text'.toList → Predicate.ofText registry table text' = .ok p) ∧
    ∀ text', Recased text.toList text'.toList →
      (∀ p, Predicate.ofText registry table text = .ok p →
        Predicate.ofText registry table text' = .ok p) ∧
      ∀ err, Predicate.ofText registry table text = .error err →
        ∃ err', Predicate.ofText registry table text' = .error err' ∧ err.Alike Eq err' := by
  constructor
  · intro p h
    cases hu : tokenize text with
    | error e =>
        rw [ofText_eq_bind, hu] at h
        cases h
    | ok us =>
        obtain ⟨ts, rfl, -⟩ := tokenize_eq_ok_iff.mp hu
        exact ⟨ts, rfl, fun text' hr => ofText_of_respaced hu h hr⟩
  · intro text' hr
    have ha : Agree Eq Eq (Predicate.ofText registry table text)
        (Predicate.ofText registry table text') := ofText_agree hr
    constructor
    · intro p h
      rw [h] at ha
      generalize Predicate.ofText registry table text' = y at ha ⊢
      cases ha with
      | ok he => rw [he]
    · intro err h
      rw [h] at ha
      generalize Predicate.ofText registry table text' = y at ha ⊢
      cases ha with
      | error he => exact ⟨_, rfl, he⟩

set_option maxRecDepth 2000 in
/-- A comparison that is laid out and spelled in another way, and one that breaks off behind its
field. -/
theorem ofText_of_spelling_capitals :
    Predicate.ofText .standard User.table "id gt 1" = .ok (.compare "id" .gt (.integer 1)) ∧
    Predicate.ofText .standard User.table "\u00a0ID\tGt 1 " =
      .ok (.compare "id" .gt (.integer 1)) ∧
    Predicate.ofText .standard User.table "id" =
      .error (.mismatched (Comparator.all.map .comparator) (.ending 2)) ∧
    ∃ err, Predicate.ofText .standard User.table "Id" = .error err ∧
      FilterError.Alike Eq (.mismatched (Comparator.all.map .comparator) (.ending 2)) err := by
  have h₁ : Cursor.next ⟨"id gt 1".toList, 0⟩
      = (.ok ⟨.identifier, "id", 0⟩, ⟨" gt 1".toList, 2⟩) := rfl
  have h₂ : Cursor.next ⟨" gt 1".toList, 2⟩
      = (.ok ⟨.comparator .gt, "gt", 3⟩, ⟨" 1".toList, 5⟩) := rfl
  have h₃ : Cursor.next ⟨" 1".toList, 5⟩ = (.ok ⟨.literal .decimal, "1", 6⟩, ⟨[], 7⟩) := rfl
  have h₄ : Cursor.next ⟨[], 7⟩ = (.ok (.ending 7), ⟨[], 7⟩) := rfl
  have ht : tokenize "id gt 1" = .ok [⟨.identifier, "id", 0⟩, ⟨.comparator .gt, "gt", 3⟩,
      ⟨.literal .decimal, "1", 6⟩, .ending 7] :=
    Cursor.tokens_eq_ok_iff.mpr ⟨_, _, _, _, .cons h₁ (by decide) (.cons h₂ (by decide)
      (.cons h₃ (by decide) .nil)), h₄, rfl, rfl⟩
  have hp : Predicate.ofText .standard User.table "id gt 1" =
      .ok (.compare "id" .gt (.integer 1)) := by
    rw [ofText_eq_bind, ht]
    rfl
  have h₅ : Cursor.next ⟨"id".toList, 0⟩ = (.ok ⟨.identifier, "id", 0⟩, ⟨[], 2⟩) := rfl
  have h₆ : Cursor.next ⟨[], 2⟩ = (.ok (.ending 2), ⟨[], 2⟩) := rfl
  have hu : tokenize "id" = .ok [⟨.identifier, "id", 0⟩, .ending 2] :=
    Cursor.tokens_eq_ok_iff.mpr ⟨_, _, _, _, .cons h₅ (by decide) .nil, h₆, rfl, rfl⟩
  have he : Predicate.ofText .standard User.table "id" =
      .error (.mismatched (Comparator.all.map .comparator) (.ending 2)) := by
    rw [ofText_eq_bind, hu]
    rfl
  refine ⟨hp, ?_, he, ?_⟩
  · obtain ⟨ts, hts, hr⟩ := (ofText_of_spelling .standard User.table "id gt 1").1 _ hp
    rw [ht] at hts
    obtain ⟨rfl, -⟩ : [_, _, _] = ts ∧ _ := List.append_inj' (Except.ok.inj hts) rfl
    have hb : ∀ c : Char, isBlank c = true → AllBlank [c] := by
      intro c hc d hd
      rwa [List.mem_singleton.mp hd]
    have w₁ : Token.Spells ⟨.identifier, "id", 0⟩ ['I', 'D'] :=
      ⟨sameLetters_iff.mpr rfl, fun _ h => nomatch h⟩
    have w₂ : Token.Spells ⟨.comparator .gt, "gt", 3⟩ ['G', 't'] :=
      ⟨sameLetters_iff.mpr rfl, fun _ h => nomatch h⟩
    have w₃ : Token.Spells ⟨.literal .decimal, "1", 6⟩ ['1'] := ⟨.refl _, fun _ _ => rfl⟩
    exact hr _ (.token (hb '\u00a0' (by decide)) w₁ (fun _ => ⟨'\t', rfl, by decide⟩)
      (.token (hb '\t' (by decide)) w₂ (fun _ => ⟨' ', rfl, by decide⟩)
      (.token (hb ' ' (by decide)) w₃ (fun h => absurd rfl h) (.blanks (hb ' ' (by decide))))))
  · refine ((ofText_of_spelling .standard User.table "id").2 "Id" ?_).2 _ he
    exact .cons (by decide) rfl (.cons (by decide) rfl .nil)

end RecordFilter
