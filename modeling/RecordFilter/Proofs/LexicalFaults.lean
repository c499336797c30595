import RecordFilter.Proofs.Tiling

/-! # Texts that have no tokens

`Fault rest text after` says what keeps a token from being read at the front of the text `rest`:
a character with which no token begins, a minus sign without a number, or a quote that nothing
closes.  The characters `text` are reported, and reading can go on with `after`.  A step of the
cursor fails exactly if there is such a fault behind white space (`Cursor.next_fault`,
`Cursor.fault_of_next`).

Hence a text has no tokens exactly if it falls into a part that has tokens and a rest with a fault
(`Laid.tokens_of_fault`, `Cursor.exists_fault_of_tokens`).  In front of the rest every token must
end (`Apart`): the tokens of the first part are those of the whole text only then, and only then
there is one way to divide the text so (`tokenize_error_exact`). -/

namespace RecordFilter

/-! ### Faults -/

/-- A character that is no white space and with which no token begins. -/
def BeginsNothing (c : Char) : Prop :=
  isBlank c = false ∧ c ∉ ['(', ')', '\'', '-'] ∧ c.isDigit = false ∧
    isAlphabetic c = false ∧ c ≠ '_'

instance : DecidablePred BeginsNothing :=
  fun _ => inferInstanceAs (Decidable (_ ∧ _))

/-- `Fault rest text after`: no token stands at the front of the text `rest`, as the characters
`text` are no token, and reading can go on with the text `after`. -/
inductive Fault : List Char → List Char → List Char → Prop
  | stranger {c : Char} {cs : List Char} (h : BeginsNothing c) : Fault (c :: cs) [c] (c :: cs)
  | minus {cs : List Char} (h : ∀ c ∈ cs.head?, c.isDigit = false) : Fault ('-' :: cs) ['-'] cs
  | unclosed {cs : List Char} (h : '\'' ∉ cs) : Fault ('\'' :: cs) ('\'' :: cs) []

namespace Fault

variable {rest text after : List Char}

theorem front_eq (h : Fault rest text after) : front rest = .fault text after := by
  cases h with
  | @stranger c cs h =>
      obtain ⟨-, hp, hd, ha, hu⟩ := h
      simp only [List.mem_cons, List.not_mem_nil, or_false, not_or] at hp
      simp [front, hp, hd, beginsWord, ha, hu]
  | minus h =>
      have ht : after.takeWhile Char.isDigit = [] := by
        cases after with
        | nil => rfl
        | cons c cs => simp [h c rfl]
      rw [front]
      simp [ht]
  | unclosed h => rw [front_quote, frontQuoted_of_unclosed h]

theorem isBlank_head (h : Fault rest text after) : ∀ c ∈ rest.head?, isBlank c = false := by
  cases h with
  | stranger h =>
      intro c hc
      cases hc
      exact h.1
  | minus | unclosed => simp [isBlank, CodeRange.anyContains, blankRanges, CodeRange.contains]

theorem isPrefix (h : Fault rest text after) : ∃ others, rest = text ++ others := by
  cases h with
  | stranger => exact ⟨_, rfl⟩
  | minus => exact ⟨_, rfl⟩
  | unclosed => exact ⟨[], (List.append_nil _).symm⟩

end Fault

theorem fault_of_front {cs text after : List Char} (hb : ∀ c ∈ cs.head?, isBlank c = false)
    (h : front cs = .fault text after) : Fault cs text after := by
  cases cs with
  | nil => cases h
  | cons c cs =>
      simp only [front] at h
      split at h
      · cases h
      split at h
      · cases h
      split at h
      · next hc =>
          subst hc
          unfold frontQuoted at h
          split at h
          · next hd =>
              cases h
              refine .unclosed fun hm => ?_
              simpa using List.dropWhile_eq_nil_iff.mp hd _ hm
          · cases h
      split at h
      · next hc =>
          subst hc
          split at h
          · next ht =>
              cases h
              refine .minus fun d hd => Bool.eq_false_iff.mpr fun hd' => ?_
              cases after with
              | nil => cases hd
              | cons e cs =>
                  cases hd
                  simp [hd'] at ht
          · cases h
      split at h
      · cases h
      split at h
      · cases h
      · next h₁ h₂ h₃ h₄ hd hw =>
          cases h
          simp only [beginsWord, Bool.or_eq_true, not_or, beq_iff_eq, Bool.not_eq_true] at hw hd
          exact .stranger ⟨hb c rfl, by simp [h₁, h₂, h₃, h₄], hd, hw⟩

/-! ### Steps that fail -/

namespace Cursor

theorem next_fault {blanks rest text after : List Char} (offset : Nat) (hb : AllBlank blanks)
    (h : Fault rest text after) : next ⟨blanks ++ rest, offset⟩ =
      (.error (.unrecognized (String.ofList text) (offset + byteLength blanks)),
        ⟨after, offset + byteLength blanks + (byteLength rest - byteLength after)⟩) := by
  obtain ⟨h1, h2⟩ := span_append hb h.isBlank_head
  simp only [next, h1, h2, h.front_eq]

theorem fault_of_next {s s' : Cursor} {err : FilterError} (h : s.next = (.error err, s')) :
    ∃ blanks rest text, s.rest = blanks ++ rest ∧ AllBlank blanks ∧ Fault rest text s'.rest ∧
      err = .unrecognized (String.ofList text) (s.offset + byteLength blanks) := by
  have hsplit := List.takeWhile_append_dropWhile (p := isBlank) (l := s.rest)
  unfold next at h
  simp only at h
  split at h
  · cases h
  · next hf =>
      cases h
      exact ⟨_, _, _, hsplit.symm, fun c hc => List.mem_takeWhile_imp hc,
        fault_of_front head?_dropWhile hf, rfl⟩
  · cases h

end Cursor

/-! ### Tokens in front of a fault -/

/-- Those of the tokens that end at the byte `stop` would end there in front of `rest` too. -/
def Apart (stop : Nat) (ts : List Token) (rest : List Char) : Prop :=
  ∀ t ∈ ts, t.stop = stop → t.kind.Stops rest

/-- The first of some tokens ends where the text does if nothing is left behind it. -/
theorem apart_cons_iff {start : Nat} {blanks lexeme after rest : List Char} {kind : TokenKind}
    {ts : List Token} : Apart (start + byteLength (blanks ++ (lexeme ++ after)))
        (⟨kind, String.ofList lexeme, start + byteLength blanks⟩ :: ts) rest ↔
      (after = [] → kind.Stops rest) ∧
        Apart (start + byteLength blanks + byteLength lexeme + byteLength after) ts rest := by
  have he : start + byteLength (blanks ++ (lexeme ++ after)) =
      start + byteLength blanks + byteLength lexeme + byteLength after := by
    simp only [byteLength_append]
    omega
  have hs : start + byteLength blanks + byteLength lexeme =
        start + byteLength blanks + byteLength lexeme + byteLength after ↔ after = [] := by
    constructor
    · intro h
      exact eq_nil_of_byteLength_eq_zero (by omega)
    · rintro rfl
      rfl
  rw [he]
  simp only [Apart, List.forall_mem_cons, Token.stop, String.toList_ofList, hs]

theorem Laid.tokens_of_fault {start : Nat} {before rest text after : List Char} {ts : List Token}
    (h : Laid start before ts) (ha : Apart (start + byteLength before) ts rest)
    (hf : Fault rest text after) : Cursor.tokens ⟨before ++ rest, start⟩ =
      .error (.unrecognized (String.ofList text) (start + byteLength before)) := by
  induction h with
  | blanks hb => exact Cursor.tokens_of_error (Cursor.next_fault _ hb hf)
  | @token start blanks lexeme after' kind ts hb hl hs _ ih =>
      obtain ⟨hs', ha'⟩ := apart_cons_iff.mp ha
      have hn := Cursor.next_lexeme start hb hl (TokenKind.stops_append_iff.mpr ⟨hs, hs'⟩)
      rw [List.append_assoc, List.append_assoc, Cursor.tokens_of_token hn hl.ne_ending, ih ha']
      simp only [byteLength_append, ← Nat.add_assoc]
      rfl

theorem Cursor.exists_fault_of_tokens {s : Cursor} {err : FilterError}
    (h : s.tokens = .error err) : ∃ before rest text after ts, s.rest = before ++ rest ∧
      Laid s.offset before ts ∧ Apart (s.offset + byteLength before) ts rest ∧
      Fault rest text after ∧
      err = .unrecognized (String.ofList text) (s.offset + byteLength before) := by
  fun_induction tokens s generalizing err with
  | case1 s e s' hn =>
      cases h
      obtain ⟨blanks, rest, text, hr, hb, hf, he⟩ := fault_of_next hn
      exact ⟨blanks, rest, text, _, [], hr, .blanks hb, by simp [Apart], hf, he⟩
  | case2 => cases h
  | case3 s t s₁ hn ht ih =>
      cases hs : s₁.tokens with
      | ok vs =>
          rw [hs] at h
          cases h
      | error e =>
          rw [hs] at h
          cases h
          obtain ⟨before, rest, text, after, ts, hr, hl, ha, hf, rfl⟩ := ih hs
          obtain ⟨cs, start⟩ := s
          obtain ⟨after', stop⟩ := s₁
          obtain ⟨kind, _, position⟩ := t
          change after' = before ++ rest at hr
          subst hr
          obtain ⟨blanks, lexeme, hb, hx, hstops, -, rfl⟩ := lexeme_of_next hn ht
          have hn' := next_lexeme start hb hx hstops
          rw [hn] at hn'
          cases hn'
          obtain ⟨hstops, hstops'⟩ := TokenKind.stops_append_iff.mp hstops
          refine ⟨blanks ++ (lexeme ++ before), rest, text, after, _, by simp,
            .token hb hx hstops hl, apart_cons_iff.mpr ⟨hstops', ha⟩, hf, ?_⟩
          simp only [byteLength_append, ← Nat.add_assoc]

/-! ### The fault of a text -/

/-- Whether the tokens of this kind are words. -/
def TokenKind.isWord : TokenKind → Bool
  | .identifier | .connective _ | .comparator _ => true
  | _ => false

/-- In front of a fault nothing but a word could go on. -/
theorem Fault.stops_iff {rest text after : List Char} (h : Fault rest text after)
    (k : TokenKind) : k.Stops rest ↔
      (k.isWord = true → ∀ c ∈ rest.head?, continuesWord c = false) := by
  have hd : ∀ c ∈ rest.head?, c.isDigit = false := by
    cases h with
    | stranger h =>
        intro c hc
        cases hc
        exact h.2.2.1
    | minus | unclosed =>
        intro c hc
        cases hc
        rfl
  cases k with
  | identifier | connective op | comparator op =>
      simp [TokenKind.Stops, TokenKind.continuedBy, TokenKind.isWord]
  | literal shape =>
      cases shape with
      | decimal => simpa [TokenKind.Stops, TokenKind.continuedBy, TokenKind.isWord] using hd
      | text | date | time => simp [TokenKind.Stops, TokenKind.continuedBy, TokenKind.isWord]
  | leftParen | rightParen | endOfInput =>
      simp [TokenKind.Stops, TokenKind.continuedBy, TokenKind.isWord]

/-- The text has tokens, and one of them is a word that ends where the text does. -/
def EndsInWord (s : String) : Prop :=
  ∃ us, tokenize s = .ok us ∧ ∃ t ∈ us, t.kind.isWord = true ∧ t.stop = s.utf8ByteSize

/-- `StopsShort input before rest text`: the text `input` consists of a part that has tokens by
itself and of a rest with a fault, for which the characters `text` are reported.  The rest does not
go on with a word in which the first part ends. -/
structure StopsShort (input before rest text : String) : Prop where
  split : input = before ++ rest
  tokenizes : ∃ us, tokenize before = .ok us
  apart : EndsInWord before → ∀ c ∈ rest.toList.head?, continuesWord c = false
  fault : ∃ after, Fault rest.toList text.toList after

/-- The tokens that are laid in a text end in front of a fault unless it goes on with a word. -/
theorem apart_iff_of_laid {s : String} {rest text after : List Char} {ts : List Token}
    (hl : Laid 0 s.toList ts) (hf : Fault rest text after) :
    Apart s.utf8ByteSize ts rest ↔
      (EndsInWord s → ∀ c ∈ rest.head?, continuesWord c = false) := by
  have ht : tokenize s = .ok (ts ++ [.ending s.utf8ByteSize]) :=
    tokenize_eq_ok_iff_laid.mpr ⟨ts, rfl, hl⟩
  constructor
  · rintro ha ⟨us, hus, t, hm, hw, hstop⟩
    obtain rfl := Except.ok.inj (ht.symm.trans hus)
    rcases List.mem_append.mp hm with hm | hm
    · exact (hf.stops_iff t.kind).mp (ha t hm hstop) hw
    · rw [List.mem_singleton.mp hm] at hw
      cases hw
  · intro h t hm hstop
    refine (hf.stops_iff t.kind).mpr fun hw => h ⟨_, ht, t, ?_, hw, hstop⟩
    exact List.mem_append_left _ hm

theorem StopsShort.tokenize_eq {input before rest text : String}
    (h : StopsShort input before rest text) :
    tokenize input = .error (.unrecognized text before.utf8ByteSize) := by
  obtain ⟨rfl, ⟨us, hus⟩, ha, after, hf⟩ := h
  obtain ⟨ts, -, hl⟩ := tokenize_eq_ok_iff_laid.mp hus
  have hstop : 0 + byteLength before.toList = before.utf8ByteSize := by
    rw [Nat.zero_add, byteLength_toList]
  have hap : Apart (0 + byteLength before.toList) ts rest.toList := by
    rw [hstop]
    exact (apart_iff_of_laid hl hf).mpr ha
  have ht := hl.tokens_of_fault hap hf
  rw [hstop, String.ofList_toList, ← String.toList_append] at ht
  exact ht

theorem exists_stopsShort {input : String} {err : FilterError}
    (h : tokenize input = .error err) : ∃ before rest text, StopsShort input before rest text := by
  obtain ⟨before, rest, text, after, ts, hr, hl, ha, hf, -⟩ := Cursor.exists_fault_of_tokens h
  change input.toList = before ++ rest at hr
  change Laid 0 before ts at hl
  change Apart (0 + byteLength before) ts rest at ha
  have hb : before = (String.ofList before).toList := String.toList_ofList.symm
  rw [hb, byteLength_toList, Nat.zero_add] at ha
  rw [hb] at hl
  refine ⟨String.ofList before, String.ofList rest, String.ofList text, ?_, ?_, ?_, after, ?_⟩
  · rw [← String.ofList_append, ← hr, String.ofList_toList]
  · exact ⟨_, tokenize_eq_ok_iff_laid.mpr ⟨ts, rfl, hl⟩⟩
  · rw [String.toList_ofList]
    exact (apart_iff_of_laid hl hf).mp ha
  · rwa [String.toList_ofList, String.toList_ofList]

theorem append_inj_of_byteLength {as bs as' bs' : List Char} (h : as ++ bs = as' ++ bs')
    (hl : byteLength as = byteLength as') : as = as' ∧ bs = bs' := by
  have hnil {cs ds : List Char} (h : byteLength (cs ++ ds) = byteLength cs) : ds = [] := by
    rw [byteLength_append] at h
    exact eq_nil_of_byteLength_eq_zero (by omega)
  rcases List.append_eq_append_iff.mp h with ⟨ds, rfl, rfl⟩ | ⟨ds, rfl, rfl⟩
  · simp [hnil hl.symm]
  · simp [hnil hl]

/-- **Where a text stops having tokens.**  A text has no tokens exactly if it can be divided into a
part that has tokens by itself and a rest at whose front there is a fault, such that the rest does
not go on with a word in which the first part ends.  The error then names the number of bytes of
the first part and the characters of the fault, which stand there in the text, and there is no
other such division. -/
theorem tokenize_error_exact (input : String) :
    ((∃ err, tokenize input = .error err) ↔
      ∃ before rest text, StopsShort input before rest text) ∧
    ∀ before rest text, StopsShort input before rest text →
      tokenize input = .error (.unrecognized text before.utf8ByteSize) ∧
      StandsAt 0 input.toList before.utf8ByteSize text.toList ∧
      ∀ before' rest' text', StopsShort input before' rest' text' →
        before' = before ∧ rest' = rest ∧ text' = text := by
  refine ⟨⟨fun ⟨_, h⟩ => exists_stopsShort h, fun ⟨_, _, _, h⟩ => ⟨_, h.tokenize_eq⟩⟩,
    fun before rest text h => ⟨h.tokenize_eq, ?_, fun before' rest' text' h' => ?_⟩⟩
  · obtain ⟨rfl, -, -, after, hf⟩ := h
    obtain ⟨others, ho⟩ := hf.isPrefix
    refine ⟨before.toList, others, by rw [String.toList_append, ho], ?_⟩
    rw [Nat.zero_add, byteLength_toList]
  · obtain ⟨ht, hp⟩ := FilterError.unrecognized.inj
      (Except.error.inj (h'.tokenize_eq.symm.trans h.tokenize_eq))
    have he : before'.toList ++ rest'.toList = before.toList ++ rest.toList := by
      rw [← String.toList_append, ← String.toList_append, ← h'.split, ← h.split]
    rw [← byteLength_toList, ← byteLength_toList] at hp
    obtain ⟨hb, hr⟩ := append_inj_of_byteLength he hp
    exact ⟨String.toList_inj.mp hb, String.toList_inj.mp hr, ht⟩

/-- A superscript is a number, with which a word could go on, but not an integer. -/
theorem tokenize_error_superscript : StopsShort "-7²" "-7" "²" "²" ∧
    tokenize "-7²" = .error (.unrecognized "²" 2) := by
  have h₁ : Cursor.next ⟨"-7".toList, 0⟩ = (.ok ⟨.literal .decimal, "-7", 0⟩, ⟨[], 2⟩) := rfl
  have h₂ : Cursor.next ⟨[], 2⟩ = (.ok (.ending 2), ⟨[], 2⟩) := rfl
  have ht : tokenize "-7" = .ok [⟨.literal .decimal, "-7", 0⟩, .ending 2] :=
    Cursor.tokens_eq_ok_iff.mpr ⟨_, _, _, _, .cons h₁ (by decide) .nil, h₂, rfl, rfl⟩
  have h : StopsShort "-7²" "-7" "²" "²" := by
    refine ⟨rfl, ⟨_, ht⟩, ?_, ['²'], .stranger (by decide +kernel)⟩
    rintro ⟨us, hus, t, hm, hw, -⟩
    obtain rfl := Except.ok.inj (ht.symm.trans hus)
    simp only [List.mem_cons, List.not_mem_nil, or_false] at hm
    rcases hm with rfl | rfl <;> cases hw
  exact ⟨h, ((tokenize_error_exact _).2 _ _ _ h).1⟩

end RecordFilter
