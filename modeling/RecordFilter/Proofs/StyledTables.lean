import RecordFilter.Proofs.AlignedTables

/-! # Tables without their styles

Styles are escape sequences around a text (`Style.paint`).  Where they are taken out of a text
(`unstyled`), the text remains, provided that it has no escape character of its own.  That holds
whatever stands behind it (`Unstyles`), and so it passes from the parts of a table to the whole:
with its escape sequences taken out, a table with colors is the table without them
(`unstyled_listings`). -/

namespace RecordFilter

/-! ### Taking out styles -/

/-- A text without its escape sequences, from a place outside or within one.  A sequence goes from
the escape character and a bracket to the next `m`; without one behind it, the text stays as it
is. -/
def unstyledFrom (within : Bool) : List Char → List Char
  | [] => []
  | c :: cs =>
    if within then unstyledFrom (c != 'm') cs
    else if c = '\x1b' ∧ cs.head? = some '[' ∧ 'm' ∈ cs then unstyledFrom true cs
    else c :: unstyledFrom false cs

/-- A text without its escape sequences. -/
def unstyled (cs : List Char) : List Char :=
  unstyledFrom false cs

section unstyled
variable {cs parameter : List Char}

theorem unstyled_append_of_not_mem (h : '\x1b' ∉ cs) (rest : List Char) :
    unstyled (cs ++ rest) = cs ++ unstyled rest := by
  induction cs with
  | nil => rfl
  | cons c cs ih =>
      obtain ⟨hc, hcs⟩ := not_or.mp (mt List.mem_cons.mpr h)
      have hescape : ¬ (c = '\x1b' ∧ (cs ++ rest).head? = some '[' ∧ 'm' ∈ cs ++ rest) :=
        fun hsequence => hc hsequence.1.symm
      rw [List.cons_append, unstyled, unstyledFrom, if_neg Bool.false_ne_true, if_neg hescape]
      exact congrArg (c :: ·) (ih hcs)

theorem unstyledFrom_parameter (h : 'm' ∉ parameter) (rest : List Char) :
    unstyledFrom true (parameter ++ 'm' :: rest) = unstyled rest := by
  induction parameter with
  | nil => rfl
  | cons c parameter ih =>
      obtain ⟨hc, hparameter⟩ := not_or.mp (mt List.mem_cons.mpr h)
      have hgoes : (c != 'm') = true := bne_iff_ne.mpr (Ne.symm hc)
      rw [List.cons_append, unstyledFrom, if_pos rfl, hgoes]
      exact ih hparameter

theorem unstyled_escape (h : 'm' ∉ parameter) (rest : List Char) :
    unstyled (Style.escape parameter ++ rest) = unstyled rest := by
  have hbracket : 'm' ∉ '[' :: parameter := by simpa using h
  simpa [unstyled, unstyledFrom, Style.escape] using unstyledFrom_parameter hbracket rest

end unstyled

/-! ### Texts with styles -/

/-- In front of any text, the first text is the second one but for escape sequences. -/
def Unstyles (styled plain : List Char) : Prop :=
  ∀ rest, unstyled (styled ++ rest) = plain ++ unstyled rest

section unstyles
variable {styled styled' plain plain' : List Char}

theorem Unstyles.eq (h : Unstyles styled plain) : unstyled styled = plain := by
  have hrest := h []
  rwa [List.append_nil, show unstyled [] = [] from rfl, List.append_nil] at hrest

theorem Unstyles.append (h : Unstyles styled plain) (h' : Unstyles styled' plain') :
    Unstyles (styled ++ styled') (plain ++ plain') := by
  intro rest
  rw [List.append_assoc, h, h', List.append_assoc]

theorem unstyles_of_not_mem (h : '\x1b' ∉ plain) : Unstyles plain plain :=
  unstyled_append_of_not_mem h

theorem unstyles_paint (s : Style) (h : Unstyles styled plain) :
    Unstyles (s.paint true styled) plain := by
  have hopening : 'm' ∉ s.opening := by cases s <;> decide
  have hclosing : 'm' ∉ s.closing := by cases s <;> decide
  intro rest
  rw [Style.paint, if_pos rfl, List.append_assoc, List.append_assoc, unstyled_escape hopening, h,
    unstyled_escape hclosing]

example : unstyled (Style.red.paint true ['[', 'm']) = ['[', 'm'] := by decide

theorem unstyles_flatMap {α : Type} {f g : α → List Char} {as : List α}
    (h : ∀ a ∈ as, Unstyles (f a) (g a)) : Unstyles (as.flatMap f) (as.flatMap g) := by
  induction as with
  | nil => exact fun rest => rfl
  | cons a as ih =>
      obtain ⟨ha, has⟩ := List.forall_mem_cons.mp h
      exact ha.append (ih has)

end unstyles

/-! ### Tables -/

/-- A table loses its styles line by line. -/
theorem unstyled_tableText {α : Type} {columns : List Column} {f g : α → List Char} {as : List α}
    (htitles : '\x1b' ∉ Column.titles columns) (h : ∀ a ∈ as, Unstyles (f a) (g a)) :
    unstyled (tableText true columns (as.map f)).toList =
      (tableText false columns (as.map g)).toList := by
  have hbreak : Unstyles ['\n'] ['\n'] := unstyles_of_not_mem (by decide)
  have hheader := (unstyles_paint .dimmed (unstyles_of_not_mem htitles)).append hbreak
  have hrows : Unstyles (as.flatMap (f · ++ ['\n'])) (as.flatMap (g · ++ ['\n'])) :=
    unstyles_flatMap fun a ha => (h a ha).append hbreak
  simpa [tableText, Style.paint, List.flatMap_map] using (hheader.append hrows).eq

theorem Role.unstyles_cell (r : Role) : Unstyles (r.cell true) (r.cell false) := by
  have hname : Unstyles r.name.toList r.name.toList :=
    unstyles_of_not_mem (by cases r <;> decide +kernel)
  cases r with
  | admin => exact unstyles_paint .red hname
  | manager => exact unstyles_paint .yellow hname
  | user => exact hname

/-- The role stands last in the line of a user, where it is not filled. -/
theorem User.row_eq_append (colors : Bool) (u : User) :
    u.row colors = Column.line (columns.take 2) [integerText u.id.toInt, truncated 24 u.name.toList]
      ++ ' ' :: u.role.cell colors := by
  simp [row, columns, Column.line, Column.fill]

theorem User.unstyles_row {u : User} (h : '\x1b' ∉ u.name.toList) :
    Unstyles (u.row true) (u.row false) := by
  have hcontrol : '\x1b'.toNat < 32 := by decide
  have hfront : '\x1b' ∉
      Column.line (columns.take 2) [integerText u.id.toInt, truncated 24 u.name.toList] := by
    apply Column.not_mem_line hcontrol
    simp [not_mem_integerText hcontrol, not_mem_truncated hcontrol h]
  have hblank : Unstyles [' '] [' '] := unstyles_of_not_mem (by decide)
  rw [row_eq_append, row_eq_append]
  exact (unstyles_of_not_mem hfront).append (hblank.append u.role.unstyles_cell)

theorem User.unstyled_listing {us : List User} (h : ∀ u ∈ us, '\x1b' ∉ u.name.toList) :
    unstyled (listing true us).toList = (listing false us).toList := by
  unfold listing
  split
  · exact (unstyles_of_not_mem (by decide +kernel)).eq
  · exact unstyled_tableText (by decide +kernel) fun u hu => unstyles_row (h u hu)

theorem Jogging.unstyled_listing {js : List Jogging}
    (h : ∀ j ∈ js, ∀ text ∈ j.texts, '\x1b' ∉ text.toList) :
    unstyled (listing true js).toList = (listing false js).toList := by
  unfold listing
  split
  · exact (unstyles_of_not_mem (by decide +kernel)).eq
  · exact unstyled_tableText (by decide +kernel) fun j hj =>
      unstyles_of_not_mem (not_mem_row (by decide) (h j hj))

/-- **Colors add only escape sequences.**  Where no text has an escape character of its own, the
table with colors is the one without them once its escape sequences are taken out, for users and for
sessions, and also where there are none to list. -/
theorem unstyled_listings :
    (∀ us : List User, (∀ u ∈ us, '\x1b' ∉ u.name.toList) →
      unstyled (User.listing true us).toList = (User.listing false us).toList) ∧
    ∀ js : List Jogging, (∀ j ∈ js, ∀ text ∈ j.texts, '\x1b' ∉ text.toList) →
      unstyled (Jogging.listing true js).toList = (Jogging.listing false js).toList :=
  ⟨fun _ => User.unstyled_listing, fun _ => Jogging.unstyled_listing⟩

/-- What looks like the rest of an escape sequence stays, also in a name that is cut. -/
theorem unstyled_listings_brackets :
    let us : List User := [⟨1, 0, "[31mАда Лавлейс, графиня[0m", .admin⟩, ⟨2, 0, "m", .user⟩]
    let js : List Jogging := [⟨6, 0, "[0m", ⟨2019, 3, 28, by decide⟩, 3000,
      ⟨0, 30, 0, 0, by decide⟩, "京都", none, some "["⟩]
    (∀ u ∈ us, '\x1b' ∉ u.name.toList) ∧
      (∀ j ∈ js, ∀ text ∈ j.texts, '\x1b' ∉ text.toList) ∧
      User.listing true us ≠ User.listing false us ∧
      unstyled (User.listing true us).toList = (User.listing false us).toList ∧
      unstyled (Jogging.listing true js).toList = (Jogging.listing false js).toList := by
  intro us js
  have hus : ∀ u ∈ us, '\x1b' ∉ u.name.toList := by decide +kernel
  have hjs : ∀ j ∈ js, ∀ text ∈ j.texts, '\x1b' ∉ text.toList := by decide +kernel
  obtain ⟨husers, hjoggings⟩ := unstyled_listings
  exact ⟨hus, hjs, by decide +kernel, husers us hus, hjoggings js hjs⟩

end RecordFilter
