import RecordFilter.Program
import RecordFilter.Proofs.LetterCase
import RecordFilter.Proofs.Typing

/-! # Printed predicates

`Predicate.display` puts parentheses around connectives only, and quotes around operands without
marking the quotes, spaces and parentheses that the operands may have themselves.  For predicates
that filters compile to, the printed form can still be read in one way only: field names and the
signs of comparators have no spaces, and a text that was written in a filter has no quotes, so that
an operand in quotes ends at the next quote.  A numeral, which stands bare, ends where a space, a
parenthesis or the text ends (`Closes`).

That an operand is printed like another one does not make them equal, as variants, texts, dates and
times are printed alike.  It does for operands of one field, whose type tells them apart
(`FieldType.Denotes.operand_unique`).  So the induction over predicates carries along that a leaf
was written for a field of the table (`Leaf.Written`), and cuts two printed forms apart from left
to right whatever follows them (`display_append_inj`). -/

namespace RecordFilter

/-- Two texts that go on alike begin with the same run of characters of a class, if both runs end
there. -/
theorem append_inj_of_run {p : Char → Bool} {as bs rest rest' : List Char}
    (ha : ∀ c ∈ as, p c = true) (hb : ∀ c ∈ bs, p c = true) (hr : ∀ c ∈ rest.head?, p c = false)
    (hr' : ∀ c ∈ rest'.head?, p c = false) (h : as ++ rest = bs ++ rest') :
    as = bs ∧ rest = rest' := by
  obtain ⟨hta, hda⟩ := span_append ha hr
  obtain ⟨htb, hdb⟩ := span_append hb hr'
  rw [h] at hta hda
  exact ⟨hta.symm.trans htb, hda.symm.trans hdb⟩

theorem append_cons_inj {sep : Char} {as bs rest rest' : List Char} (ha : sep ∉ as) (hb : sep ∉ bs)
    (h : as ++ sep :: rest = bs ++ sep :: rest') : as = bs ∧ rest = rest' := by
  have hne : ∀ {cs : List Char}, sep ∉ cs → ∀ c ∈ cs, (c != sep) = true := by
    intro cs hs c hc
    exact bne_iff_ne.mpr fun he => hs (he ▸ hc)
  have hstop : ∀ rest : List Char, ∀ c ∈ (sep :: rest).head?, (c != sep) = false := by
    intro rest c hc
    rw [← Option.some.inj hc]
    exact bne_self_eq_false sep
  obtain ⟨hab, hrest⟩ := append_inj_of_run (hne ha) (hne hb) (hstop rest) (hstop rest') h
  exact ⟨hab, (List.cons.inj hrest).2⟩

/-! ### Operands -/

/-- The text is empty or goes on with a space or a closing parenthesis. -/
def Closes (rest : List Char) : Prop :=
  ∀ c ∈ rest.head?, c = ' ' ∨ c = ')'

theorem closes_nil : Closes [] := by
  intro c hc
  cases hc

theorem closes_space (rest : List Char) : Closes (' ' :: rest) := by
  intro c hc
  exact .inl (Option.some.inj hc).symm

theorem closes_paren (rest : List Char) : Closes (')' :: rest) := by
  intro c hc
  exact .inr (Option.some.inj hc).symm

theorem integerText_append_inj {m n : Int64} {rest rest' : List Char} (hr : Closes rest)
    (hr' : Closes rest') (h : integerText m.toInt ++ rest = integerText n.toInt ++ rest') :
    m = n ∧ rest = rest' := by
  let inNumeral : Char → Bool := fun c => c.isDigit || c == '-'
  have hin : ∀ k : Int, ∀ c ∈ integerText k, inNumeral c = true := by
    intro k c hc
    obtain ⟨digits, -, hd, ⟨ht, -⟩ | ⟨ht, -⟩⟩ := spellsInteger_integerText k
    · rw [ht] at hc
      simp [inNumeral, hd c hc]
    · rw [ht] at hc
      rcases List.mem_cons.mp hc with rfl | hc
      · rfl
      · simp [inNumeral, hd c hc]
  have hstop : ∀ {rest : List Char}, Closes rest → ∀ c ∈ rest.head?, inNumeral c = false := by
    intro rest hr c hc
    rcases hr c hc with rfl | rfl <;> rfl
  obtain ⟨ht, hrest⟩ := append_inj_of_run (hin _) (hin _) (hstop hr) (hstop hr') h
  have hm := (spellsInteger_integerText m.toInt).readInt64?
  have hn := (spellsInteger_integerText n.toInt).readInt64?
  rw [ht, hn, toInt64?_toInt, toInt64?_toInt] at hm
  exact ⟨(Option.some.inj hm).symm, hrest⟩

theorem Date.eq_of_chars {d d' : Date} (h : 0 ≤ d.year ∧ d.year ≤ 9999)
    (he : d.chars = d'.chars) : d = d' := by
  have hd : IsDateShaped d.chars := ⟨_, _, _, chars_grouped h⟩
  have h₁ : read? d.chars = some d := (read?_eq_some_iff hd).mpr rfl
  have h₂ : read? d.chars = some d' := (read?_eq_some_iff hd).mpr he.symm
  exact Option.some.inj (h₁.symm.trans h₂)

theorem TimeOfDay.eq_of_chars {t t' : TimeOfDay} (h : t.nanosecond = 0) (h' : t'.nanosecond = 0)
    (he : t.chars = t'.chars) : t = t' := by
  have ht : IsTimeShaped t.chars := ⟨_, _, _, t.chars_grouped⟩
  have h₁ : read? t.chars = some t := (read?_eq_some_iff ht).mpr ⟨rfl, h⟩
  have h₂ : read? t.chars = some t' := (read?_eq_some_iff ht).mpr ⟨he.symm, h'⟩
  exact Option.some.inj (h₁.symm.trans h₂)

section operands
variable {field field' : String} {type : FieldType} {l l' : Literal} {v v' : Value}

theorem not_mem_quote_asText (h : (WrittenLiteral.valid l).WellFormed field) :
    '\'' ∉ l.asText.toList := by
  cases l with
  | integer n =>
      rw [Literal.asText, String.toList_ofList]
      exact (spellsInteger_integerText n.toInt).not_mem_quote
  | text s => exact h.1
  | date d =>
      rw [Literal.asText, Date.text, String.toList_ofList]
      exact (Date.chars_grouped h).not_mem_quote (by decide)
  | time t =>
      rw [Literal.asText, TimeOfDay.text, String.toList_ofList]
      exact t.chars_grouped.not_mem_quote (by decide)

/-- An operand is printed as the text of its literal, in quotes but for numbers. -/
theorem FieldType.Denotes.toList_display (h : type.Denotes l v) :
    v.display.toList =
      if type = .integer then l.asText.toList else inQuotes l.asText.toList := by
  cases h with
  | integer n => rw [if_pos rfl, Value.display, Literal.asText]
  | numeral n =>
      rw [if_neg (by simp), Value.display, ← Literal.asText_integer]
      simp [inQuotes]
  | enum _ | text _ | date _ | time _ =>
      rw [if_neg (by simp), Value.display]
      simp [inQuotes, Literal.asText]

theorem FieldType.Denotes.operand_unique (h : type.Denotes l v) (h' : type.Denotes l' v')
    (hl : (WrittenLiteral.valid l).WellFormed field)
    (hl' : (WrittenLiteral.valid l').WellFormed field') (ht : l.asText = l'.asText) : v = v' := by
  cases h with
  | enum hp =>
      cases h' with
      | enum hp' =>
          rw [ht, hp', Option.some_inj] at hp
          rw [ht, hp]
  | integer m =>
      cases h' with
      | integer n =>
          have hc : integerText m.toInt = integerText n.toInt := String.ofList_injective ht
          have he : integerText m.toInt ++ [] = integerText n.toInt ++ [] := by rw [hc]
          rw [(integerText_append_inj closes_nil closes_nil he).1]
  | numeral m =>
      rw [Literal.asText_integer] at ht
      cases h' with
      | numeral n => rw [ht, Literal.asText_integer]
      | text s => rw [ht, Literal.asText]
  | text s =>
      rw [Literal.asText] at ht
      cases h' with
      | numeral n => rw [ht, Literal.asText_integer]
      | text s' => rw [ht, Literal.asText]
  | date d =>
      cases h' with
      | date d' => rw [Date.eq_of_chars hl (String.ofList_injective ht)]
  | time t =>
      cases h' with
      | time t' => rw [TimeOfDay.eq_of_chars hl hl' (String.ofList_injective ht)]

/-- The printed form of an operand for a field of a known type determines it, and where it ends. -/
theorem FieldType.Denotes.display_append_inj (h : type.Denotes l v) (h' : type.Denotes l' v')
    (hl : (WrittenLiteral.valid l).WellFormed field)
    (hl' : (WrittenLiteral.valid l').WellFormed field') {rest rest' : List Char}
    (hr : Closes rest) (hr' : Closes rest')
    (he : v.display.toList ++ rest = v'.display.toList ++ rest') : v = v' ∧ rest = rest' := by
  by_cases ht : type = .integer
  · subst ht
    cases h with
    | integer m =>
        cases h' with
        | integer n =>
            rw [Value.display, Value.display, String.toList_ofList, String.toList_ofList] at he
            obtain ⟨rfl, hrest⟩ := integerText_append_inj hr hr' he
            exact ⟨rfl, hrest⟩
  · rw [h.toList_display, h'.toList_display, if_neg ht, if_neg ht] at he
    have hc : l.asText.toList ++ '\'' :: rest = l'.asText.toList ++ '\'' :: rest' := by
      simpa [inQuotes] using he
    obtain ⟨htext, hrest⟩ :=
      append_cons_inj (not_mem_quote_asText hl) (not_mem_quote_asText hl') hc
    exact ⟨h.operand_unique h' hl hl' (String.toList_inj.mp htext), hrest⟩

end operands

/-! ### Leaves -/

/-- Whether a leaf can be written for a table: it compares a declared field, whose name is a word,
with the operand of a literal that can be written. -/
def Leaf.Written (table : FieldTable) (c : Leaf) : Prop :=
  ∃ f ∈ table.fields, f.name = c.field ∧ (∀ d ∈ f.name.toList, continuesWord d = true) ∧
    ∃ l, (WrittenLiteral.valid l).WellFormed c.field ∧ f.type.Denotes l c.operand

theorem continuesWord_of_sameName {declared name : String} (hn : IsFieldName name)
    (h : sameName declared name = true) : ∀ d ∈ declared.toList, continuesWord d = true := by
  have hs : SameLetters name.toList declared.toList :=
    sameLetters_iff.mpr (sameLetters_iff.mp (sameName_iff.mp h)).symm
  refine hs.forall_of_ignoresCase ignoresCase_continuesWord ?_
  obtain ⟨hhead, htail, -⟩ := isFieldName_iff.mp hn
  intro c hc
  cases hcs : name.toList with
  | nil =>
      rw [hcs] at hc
      cases hc
  | cons a as =>
      rw [hcs] at hc hhead htail
      rcases List.mem_cons.mp hc with rfl | hc
      · exact continuesWord_of_beginsWord (by simpa using hhead)
      · exact List.all_eq_true.mp htail c hc

theorem Leaf.Written.continuesWord {table : FieldTable} {c : Leaf} (h : c.Written table) :
    ∀ d ∈ c.field.toList, continuesWord d = true := by
  obtain ⟨f, -, hn, hword, -⟩ := h
  rw [← hn]
  exact hword

theorem Leaf.Written.space_not_mem {table : FieldTable} {c : Leaf} (h : c.Written table) :
    ' ' ∉ c.field.toList := by
  intro hs
  exact absurd (h.continuesWord ' ' hs) (by decide +kernel)

section compile
variable {registry : Registry} {table : FieldTable}

theorem written_of_compile {e : Expr} {p : Predicate} (he : e.WellFormed)
    (h : e.compile registry table = .ok p) : ∀ c ∈ p.leaves, c.Written table := by
  induction e generalizing p with
  | binary op left right ihl ihr =>
      obtain ⟨q, s, hl, hr, rfl⟩ := compile_binary_eq_ok_iff.mp h
      intro c hc
      rcases List.mem_append.mp hc with hc | hc
      · exact ihl he.1 hl c hc
      · exact ihr he.2 hr c hc
  | comparison name op value =>
      obtain ⟨l, meaning, f, v, rfl, -, hf, hv, rfl⟩ := compile_comparison_eq_ok_iff.mp h
      obtain ⟨hmem, hname⟩ := mem_of_lookup hf
      intro c hc
      obtain rfl := List.mem_singleton.mp hc
      have hl : (WrittenLiteral.valid l).WellFormed f.name := by
        cases l <;> exact he.2
      exact ⟨f, hmem, rfl, continuesWord_of_sameName he.1 hname, l, hl, hv⟩

theorem written_of_ofText {text : String} {p : Predicate}
    (h : Predicate.ofText registry table text = .ok p) : ∀ c ∈ p.leaves, c.Written table := by
  cases he : Expr.parse text with
  | error err =>
      rw [ofText_of_parse_error he] at h
      cases h
  | ok e =>
      rw [ofText_of_parse he] at h
      exact written_of_compile (wellFormed_of_parse he) h

end compile

/-! ### Predicates -/

theorem Comparator.space_not_mem_symbol (op : Comparator) : ' ' ∉ op.symbol.toList := by
  cases op <;> decide

theorem Comparator.symbol_injective {op op' : Comparator}
    (h : op.symbol.toList = op'.symbol.toList) : op = op' := by
  cases op <;> cases op' <;> first | rfl | exact absurd h (by decide)

theorem Connective.space_not_mem_label (op : Connective) : ' ' ∉ op.label.toList := by
  cases op <;> decide

theorem Connective.label_injective {op op' : Connective}
    (h : op.label.toList = op'.label.toList) : op = op' := by
  cases op <;> cases op' <;> first | rfl | exact absurd h (by decide)

namespace Predicate

theorem toList_display_compare (field : String) (op : Comparator) (operand : Value)
    (rest : List Char) : (compare field op operand).display.toList ++ rest =
      field.toList ++ ' ' :: (op.symbol.toList ++ ' ' :: (operand.display.toList ++ rest)) := by
  simp [display]

theorem toList_display_joined (op : Connective) (left right : Predicate) (rest : List Char) :
    (joined op left right).display.toList ++ rest =
      '(' :: (left.display.toList ++
        ' ' :: (op.label.toList ++ ' ' :: (right.display.toList ++ ')' :: rest))) := by
  simp [display]

section display
variable {table : FieldTable}

/-- No printed comparison begins as a connective of predicates does. -/
theorem display_compare_ne_joined {field : String} {op : Comparator} {operand : Value}
    (hw : (Leaf.mk field op operand).Written table) {op' : Connective} {left right : Predicate}
    {rest rest' : List Char} : (compare field op operand).display.toList ++ rest ≠
      (joined op' left right).display.toList ++ rest' := by
  rw [toList_display_compare, toList_display_joined]
  intro h
  cases hn : field.toList with
  | nil =>
      rw [hn] at h
      exact absurd (List.cons.inj h).1 (by decide)
  | cons c cs =>
      rw [hn] at h
      have hc : c = '(' := (List.cons.inj h).1
      have hcw : continuesWord c = true := hw.continuesWord c (hn ▸ List.mem_cons_self)
      rw [hc] at hcw
      exact absurd hcw (by decide +kernel)

/-- Where no name stands for two fields, the printed form of a predicate that can be written
determines it, and where it ends.  The induction is on the first predicate: a leaf is cut at its
spaces and behind its operand, a node behind its left side, its connective and its right side. -/
theorem display_append_inj
    (hnames : ∀ f ∈ table.fields, ∀ g ∈ table.fields, f.name = g.name → f = g)
    {p q : Predicate} (hp : ∀ c ∈ p.leaves, c.Written table) (hq : ∀ c ∈ q.leaves, c.Written table)
    {rest rest' : List Char} (hr : Closes rest) (hr' : Closes rest')
    (h : p.display.toList ++ rest = q.display.toList ++ rest') : p = q ∧ rest = rest' := by
  induction p generalizing q rest rest' with
  | compare field op operand =>
      have hw := hp _ (List.mem_singleton_self _)
      cases q with
      | joined op' left right => exact absurd h (display_compare_ne_joined hw)
      | compare field' op' operand' =>
          have hw' := hq _ (List.mem_singleton_self _)
          rw [toList_display_compare, toList_display_compare] at h
          obtain ⟨hfield, h₁⟩ := append_cons_inj hw.space_not_mem hw'.space_not_mem h
          obtain ⟨hop, h₂⟩ :=
            append_cons_inj op.space_not_mem_symbol op'.space_not_mem_symbol h₁
          obtain rfl : field = field' := String.toList_inj.mp hfield
          obtain rfl : op = op' := Comparator.symbol_injective hop
          obtain ⟨f, hf, hname, -, l, hl, hv⟩ := hw
          obtain ⟨g, hg, hname', -, l', hl', hv'⟩ := hw'
          obtain rfl : f = g := hnames f hf g hg (hname.trans hname'.symm)
          obtain ⟨hoperand, hrest⟩ := hv.display_append_inj hv' hl hl' hr hr' h₂
          obtain rfl : operand = operand' := hoperand
          exact ⟨rfl, hrest⟩
  | joined op left right ihl ihr =>
      cases q with
      | compare field' op' operand' =>
          have hw' := hq _ (List.mem_singleton_self _)
          exact absurd h.symm (display_compare_ne_joined hw')
      | joined op' left' right' =>
          rw [toList_display_joined, toList_display_joined] at h
          have h₀ := (List.cons.inj h).2
          obtain ⟨hleft, h₁⟩ := ihl (fun c hc => hp c (List.mem_append_left _ hc))
            (fun c hc => hq c (List.mem_append_left _ hc)) (closes_space _) (closes_space _) h₀
          obtain ⟨hop, h₂⟩ := append_cons_inj op.space_not_mem_label op'.space_not_mem_label
            (List.cons.inj h₁).2
          obtain ⟨hright, h₃⟩ := ihr (fun c hc => hp c (List.mem_append_right _ hc))
            (fun c hc => hq c (List.mem_append_right _ hc)) (closes_paren _) (closes_paren _) h₂
          obtain rfl : op = op' := Connective.label_injective hop
          rw [hleft, hright]
          exact ⟨rfl, (List.cons.inj h₃).2⟩

end display

end Predicate

/-! ### Queries -/

section texts
variable {α : Type} [Record α] {registry : Registry} {text text' : String}

section display
variable [LawfulRecord α] {p p' : Predicate}
variable (h : Predicate.ofText registry (Record.table α) text = .ok p)
variable (h' : Predicate.ofText registry (Record.table α) text' = .ok p')
variable (hd : p.display = p'.display)
include h h' hd

theorem eq_of_display : p = p' := by
  have hnames : ∀ f ∈ (Record.table α).fields, ∀ g ∈ (Record.table α).fields,
      f.name = g.name → f = g := by
    intro f hf g hg hn
    exact LawfulRecord.eq_of_sameName f hf g hg (hn ▸ sameName_refl f.name)
  have hl : p.display.toList ++ [] = p'.display.toList ++ [] := by rw [hd]
  exact (Predicate.display_append_inj hnames (written_of_ofText h) (written_of_ofText h')
    closes_nil closes_nil hl).1

theorem find_eq_of_display (records : List α) (page : Option Page) (extra : Option Predicate) :
    find registry records (some text) page extra =
      find registry records (some text') page extra := by
  have he : p = p' := eq_of_display h h' hd
  rw [find, find, Query.ofFilter, Query.ofFilter, h, h', he]

end display

end texts

theorem Preview.predicate_of_ofFilter {filter : String} {kind : RecordKind} {preview : Preview}
    (h : Preview.ofFilter filter (some kind) = .ok preview) :
    ∃ p, Predicate.ofText .standard kind.table filter = .ok p ∧
      preview.predicate = some p.display := by
  rw [Preview.ofFilter] at h
  cases he : Expr.parse filter with
  | error err =>
      rw [he] at h
      cases h
  | ok e =>
      rw [he] at h
      cases hp : Predicate.ofText .standard kind.table filter with
      | error err =>
          simp only [hp] at h
          cases h
      | ok p =>
          simp only [hp] at h
          cases h
          exact ⟨p, rfl, rfl⟩

/-- **A printed predicate determines its query.**  Two filters that compile for users, or for
sessions, to predicates that are printed alike compile to the same predicate, whatever quotations,
spaces and signs their operands hold.  So they find the same records in every store, on every page
and beside every extra predicate.  In particular the predicate that is shown for a filter and a
kind of record tells which query it stands for. -/
theorem display_determines_query (registry : Registry) :
    (∀ text text' p p', Predicate.ofText registry User.table text = .ok p →
      Predicate.ofText registry User.table text' = .ok p' → p.display = p'.display →
        p = p' ∧ ∀ (users : List User) (page : Option Page) (extra : Option Predicate),
          find registry users (some text) page extra =
            find registry users (some text') page extra) ∧
    (∀ text text' p p', Predicate.ofText registry Jogging.table text = .ok p →
      Predicate.ofText registry Jogging.table text' = .ok p' → p.display = p'.display →
        p = p' ∧ ∀ (joggings : List Jogging) (page : Option Page) (extra : Option Predicate),
          find registry joggings (some text) page extra =
            find registry joggings (some text') page extra) ∧
    (∀ kind text text' preview preview', Preview.ofFilter text (some kind) = .ok preview →
      Preview.ofFilter text' (some kind) = .ok preview' →
        preview.predicate = preview'.predicate →
          ∀ (page : Option Page) (extra : Option Predicate),
            Query.ofFilter .standard kind.table (some text) page extra =
              Query.ofFilter .standard kind.table (some text') page extra) := by
  refine ⟨fun text text' p p' h h' hd => ?_, fun text text' p p' h h' hd => ?_, ?_⟩
  · exact ⟨eq_of_display (α := User) h h' hd, find_eq_of_display h h' hd⟩
  · exact ⟨eq_of_display (α := Jogging) h h' hd, find_eq_of_display h h' hd⟩
  · intro kind text text' preview preview' h h' hd page extra
    obtain ⟨p, hp, hs⟩ := Preview.predicate_of_ofFilter h
    obtain ⟨p', hp', hs'⟩ := Preview.predicate_of_ofFilter h'
    have hdisplay : p.display = p'.display := by
      rw [hs, hs'] at hd
      exact Option.some.inj hd
    have he : p = p' := by
      cases kind with
      | user => exact eq_of_display (α := User) hp hp' hdisplay
      | jogging => exact eq_of_display (α := Jogging) hp hp' hdisplay
    rw [Query.ofFilter, Query.ofFilter, hp, hp', he]

/-- A text with a connective, a comparison and a parenthesis in it is not taken for more than an
operand, and a number and its digits in quotes stand for one text. -/
theorem display_determines_query_nested :
    ∃ p p', Predicate.ofText .standard User.table "((NAME eq 7) AND (name ne ') OR name = '))" =
        .ok p ∧
      Predicate.ofText .standard User.table "((name eq '7') AND (Name ne ') OR name = '))" =
        .ok p' ∧
      p.display = "(name = '7' AND name <> ') OR name = ')" ∧ p.display = p'.display ∧ p = p' ∧
      ∀ (users : List User) (page : Option Page) (extra : Option Predicate),
        find .standard users (some "((NAME eq 7) AND (name ne ') OR name = '))") page extra =
          find .standard users (some "((name eq '7') AND (Name ne ') OR name = '))") page
            extra := by
  let e : Expr := .binary .and (.comparison "NAME" .eq (.valid (.integer 7)))
    (.comparison "name" .ne (.valid (.text ") OR name = ")))
  let e' : Expr := .binary .and (.comparison "name" .eq (.valid (.text "7")))
    (.comparison "Name" .ne (.valid (.text ") OR name = ")))
  have hs (field : String) : (WrittenLiteral.valid (.text ") OR name = ")).WellFormed field :=
    wellFormed_text (by decide) (by decide)
  have he : e.WellFormed := ⟨⟨by decide +kernel, trivial⟩, ⟨by decide +kernel, hs _⟩⟩
  have he' : e'.WellFormed :=
    ⟨⟨by decide +kernel, wellFormed_text (by decide) (by decide)⟩, ⟨by decide +kernel, hs _⟩⟩
  let p : Predicate := .joined .and (.compare "name" .eq (.text "7"))
    (.compare "name" .ne (.text ") OR name = "))
  have hp : Predicate.ofText .standard User.table e.display = .ok p := by
    rw [ofText_of_parse (parse_display he)]
    rfl
  have hp' : Predicate.ofText .standard User.table e'.display = .ok p := by
    rw [ofText_of_parse (parse_display he')]
    rfl
  have ht : e.display = "((NAME eq 7) AND (name ne ') OR name = '))" := by decide +kernel
  have ht' : e'.display = "((name eq '7') AND (Name ne ') OR name = '))" := by decide +kernel
  rw [ht] at hp
  rw [ht'] at hp'
  obtain ⟨heq, hfind⟩ := (display_determines_query .standard).1 _ _ _ _ hp hp' rfl
  exact ⟨p, p, hp, hp', by decide +kernel, rfl, heq, hfind⟩

end RecordFilter
