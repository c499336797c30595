import RecordFilter.Listing
import RecordFilter.Proofs.CalendarText
import RecordFilter.Text.Basic

/-! # Tables

What stands in the lines of a table, and where. -/

namespace RecordFilter

/-! ## What stands in a table

The lines of a table are made of cells, and the cells of texts, numbers, dates and times.  A cut
text is no longer than it may be (`length_truncated_le`), and a filled cell is as wide as its column
or as itself (`Column.length_fill`).  A control character stands in a line only if one of the texts
brings it along (`Jogging.not_mem_row`): so a line without such texts is neither broken nor has it
an escape sequence in it. -/

section control
variable {d : Char} (hd : d.toNat < 32)
include hd

/-! ### Numbers, dates and times -/

theorem ne_of_control {c : Char} (hc : 32 ≤ c.toNat) : d ≠ c := by
  rintro rfl
  omega

theorem not_mem_of_digits {cs : List Char} (h : ∀ c ∈ cs, c.isDigit = true) : d ∉ cs := by
  intro hmem
  have hdigit := toNat_of_isDigit (h d hmem)
  omega

theorem not_mem_paddedNumeral (width n : Nat) : d ∉ paddedNumeral width n :=
  not_mem_of_digits hd fun _ => isDigit_of_mem_paddedNumeral

theorem not_mem_integerText (n : Int) : d ∉ integerText n := by
  have hdigits : d ∉ numeral n.natAbs := not_mem_of_digits hd fun _ => isDigit_of_mem_numeral
  have hsign : d ≠ '-' := ne_of_control hd (by decide)
  unfold integerText
  split <;> simp [hdigits, hsign]

theorem Date.not_mem_chars (date : Date) : d ∉ date.chars := by
  have hsigns : d ≠ '-' ∧ d ≠ '+' := ⟨ne_of_control hd (by decide), ne_of_control hd (by decide)⟩
  have hyear : d ∉ yearText date.year := by
    unfold yearText
    split_ifs <;> simp [hsigns, not_mem_paddedNumeral hd]
  simp [chars, hyear, hsigns, not_mem_paddedNumeral hd]

theorem TimeOfDay.not_mem_chars (t : TimeOfDay) : d ∉ t.chars := by
  have hcolon : d ≠ ':' := ne_of_control hd (by decide)
  simp [chars, hcolon, not_mem_paddedNumeral hd]

/-! ### Cells and lines -/

theorem not_mem_truncated {width : Nat} {cs : List Char} (h : d ∉ cs) :
    d ∉ truncated width cs := by
  have hdot : d ≠ '.' := ne_of_control hd (by decide)
  have htake : d ∉ cs.take (width - 3) := fun hmem => h (List.mem_of_mem_take hmem)
  unfold truncated
  split <;> simp [h, hdot, htake]

theorem not_mem_optionalCell {value : Option String} (h : ∀ s ∈ value, d ∉ s.toList) :
    d ∉ optionalCell value := by
  cases value with
  | none => simp [optionalCell, ne_of_control hd (show 32 ≤ '-'.toNat by decide)]
  | some s => exact h s rfl

namespace Column

theorem not_mem_fill (c : Column) {cell : List Char} (h : d ∉ cell) : d ∉ c.fill cell := by
  have hblank : d ≠ ' ' := ne_of_control hd (by decide)
  unfold fill
  split <;> simp [h, hblank]

theorem not_mem_line (cs : List Column) {cells : List (List Char)} (h : ∀ cell ∈ cells, d ∉ cell) :
    d ∉ line cs cells := by
  have hblank : d ≠ ' ' := ne_of_control hd (by decide)
  fun_induction line cs cells with
  | case1 c cell => exact not_mem_fill hd c (h cell List.mem_cons_self)
  | case2 c cs cell cells _ ih =>
      obtain ⟨hcell, hcells⟩ := List.forall_mem_cons.mp h
      simp [not_mem_fill hd c hcell, hblank, ih hcells]
  | case3 => exact List.not_mem_nil

end Column

end control

namespace Jogging

/-- The cells of a session in the table. -/
def cells (j : Jogging) : List (List Char) :=
  [integerText j.id.toInt, truncated 12 j.user.toList, j.date.chars, j.time.chars,
    integerText j.distance.toInt, truncated 16 j.location.toList,
    optionalCell j.averageTemperature, truncated 20 (optionalCell j.weatherCondition)]

theorem row_eq_line (j : Jogging) : j.row = Column.line columns j.cells :=
  rfl

/-- The texts of a session, which can hold any characters. -/
def texts (j : Jogging) : List String :=
  [j.user, j.location] ++ j.averageTemperature.toList ++ j.weatherCondition.toList

theorem not_mem_row {d : Char} (hd : d.toNat < 32) {j : Jogging}
    (h : ∀ text ∈ j.texts, d ∉ text.toList) : d ∉ j.row := by
  simp only [texts, List.forall_mem_append, List.forall_mem_cons, Option.mem_toList] at h
  obtain ⟨⟨⟨huser, hlocation, -⟩, htemperature⟩, hcondition⟩ := h
  refine row_eq_line j ▸ Column.not_mem_line hd columns ?_
  simp only [cells, List.forall_mem_cons]
  exact ⟨not_mem_integerText hd _, not_mem_truncated hd huser, j.date.not_mem_chars hd,
    j.time.not_mem_chars hd, not_mem_integerText hd _, not_mem_truncated hd hlocation,
    not_mem_optionalCell hd htemperature,
    not_mem_truncated hd (not_mem_optionalCell hd hcondition), by simp⟩

end Jogging

/-! ### Widths -/

theorem length_truncated_le {width : Nat} (h : 3 ≤ width) (cs : List Char) :
    (truncated width cs).length ≤ width := by
  unfold truncated
  split
  · simp only [List.length_append, List.length_take, List.length_cons, List.length_nil]
    omega
  · omega

theorem Column.length_fill (c : Column) (cell : List Char) :
    (c.fill cell).length = max c.width cell.length := by
  unfold fill
  split
  all_goals
    simp only [List.length_append, List.length_replicate]
    omega

/-! ## Columns of a table

A column starts behind the columns before it and a blank behind each of these (`Column.start`).  The
cells of a line start there too, unless one before them is wider than its column: each cell is moved
to the right by all that the cells before it exceed their columns (`Column.startsAt_line`).

In the table of sessions no cell but that of the temperature can be too wide, as long as the numbers
and the date fit: the texts are cut, the temperature is not.  So a long temperature moves the
weather, and nothing else is ever out of line (`Jogging.listing_columns`,
`Jogging.weather_moved`). -/

namespace Column

/-! ### Where cells start -/

/-- How many characters of a line stand before the column with the given number. -/
def start : List Column → Nat → Nat
  | c :: cs, k + 1 => c.width + 1 + start cs k
  | _, _ => 0

/-- By how many characters the cells before a column are wider than their columns. -/
def excess : List Column → List (List Char) → Nat → Nat
  | c :: cs, cell :: cells, k + 1 => cell.length - c.width + excess cs cells k
  | _, _, _ => 0

/-- Behind the first `n` characters of the line stands the cell, filled to the width of its
column. -/
def StartsAt (c : Column) (cell line : List Char) (n : Nat) : Prop :=
  n ≤ line.length ∧ c.fill cell <+: line.drop n

instance (c : Column) (cell line : List Char) (n : Nat) : Decidable (c.StartsAt cell line n) :=
  inferInstanceAs (Decidable (_ ∧ _))

section line
variable {c : Column} {cs : List Column} {cell : List Char} {cells : List (List Char)} {k : Nat}

theorem StartsAt.append {line : List Char} {n : Nat} (h : c.StartsAt cell line n)
    (front : List Char) : c.StartsAt cell (front ++ line) (front.length + n) := by
  obtain ⟨hn, hcell⟩ := h
  refine ⟨by rw [List.length_append]; omega, ?_⟩
  rwa [List.drop_length_add_append]

/-- A cell starts where its column does, moved by what the cells before it exceed theirs. -/
theorem startsAt_line (hlength : cs.length = cells.length) (hc : cs[k]? = some c)
    (hcell : cells[k]? = some cell) :
    c.StartsAt cell (line cs cells) (start cs k + excess cs cells k) := by
  fun_induction line cs cells generalizing k with
  | case1 c' cell' =>
      obtain _ | k := k
      · cases hc
        cases hcell
        exact ⟨Nat.zero_le _, List.prefix_rfl⟩
      · cases hc
  | case2 c' cs cell' cells _ ih =>
      obtain _ | k := k
      · cases hc
        cases hcell
        exact ⟨Nat.zero_le _, List.prefix_append _ _⟩
      · have hrest := (ih (Nat.succ.inj hlength) hc hcell).append (c'.fill cell' ++ [' '])
        rw [List.append_assoc] at hrest
        have hstart : (c'.fill cell' ++ [' ']).length + (start cs k + excess cs cells k) =
            start (c' :: cs) (k + 1) + excess (c' :: cs) (cell' :: cells) (k + 1) := by
          simp only [List.length_append, length_fill, List.length_singleton, start, excess]
          omega
        rwa [hstart] at hrest
  | case3 cs cells _ hcons =>
      cases cs with
      | nil => cases hc
      | cons c' cs =>
          cases cells with
          | nil => cases hcell
          | cons cell' cells => exact (hcons c' cs cell' cells rfl rfl).elim

theorem excess_succ (hc : cs[k]? = some c) (hcell : cells[k]? = some cell) :
    excess cs cells (k + 1) = excess cs cells k + (cell.length - c.width) := by
  induction k generalizing cs cells with
  | zero =>
      obtain _ | ⟨c', cs⟩ := cs
      · cases hc
      obtain _ | ⟨cell', cells⟩ := cells
      · cases hcell
      cases hc
      cases hcell
      simp [excess]
  | succ k ih =>
      obtain _ | ⟨c', cs⟩ := cs
      · cases hc
      obtain _ | ⟨cell', cells⟩ := cells
      · cases hcell
      rw [excess, ih hc hcell, excess, Nat.add_assoc]

/-- Where all cells fit, the next ones stand in their columns. -/
theorem excess_eq_zero {n : Nat} (h : ∀ p ∈ (cs.zip cells).take n, p.2.length ≤ p.1.width)
    (hk : k ≤ n) : excess cs cells k = 0 := by
  fun_induction excess cs cells k generalizing n with
  | case1 c' cs cell' cells k ih =>
      obtain ⟨n, rfl⟩ := Nat.exists_eq_succ_of_ne_zero (Nat.ne_zero_of_lt hk)
      obtain ⟨hfirst, hrest⟩ := List.forall_mem_cons.mp h
      rw [ih hrest (Nat.le_of_succ_le_succ hk), Nat.sub_eq_zero_of_le hfirst]
  | case2 => rfl

end line

end Column

/-! ### Lines -/

/-- The lines of a text, each of which a line break ends. -/
def lines (cs : List Char) : List (List Char) :=
  let (first, others) := parts '\n' cs
  (first :: others).dropLast

theorem parts_append {separator : Char} {part : List Char} (h : separator ∉ part)
    (rest : List Char) : parts separator (part ++ separator :: rest) =
      (part, (parts separator rest).1 :: (parts separator rest).2) := by
  induction part with
  | nil => simp [parts]
  | cons c part ih =>
      obtain ⟨hc, hpart⟩ := not_or.mp (mt List.mem_cons.mpr h)
      simp [parts, ih hpart, Ne.symm hc]

theorem lines_flatMap {ls : List (List Char)} (h : ∀ l ∈ ls, '\n' ∉ l) :
    lines (ls.flatMap (· ++ ['\n'])) = ls := by
  induction ls with
  | nil => rfl
  | cons l ls ih =>
      obtain ⟨hl, hls⟩ := List.forall_mem_cons.mp h
      rw [List.flatMap_cons, List.append_assoc, List.singleton_append, lines, parts_append hl]
      exact congrArg (l :: ·) (ih hls)

namespace Jogging

/-- The numbers of a session fit in their columns, and its year has four digits. -/
structure FitsColumns (j : Jogging) : Prop where
  id : (integerText j.id.toInt).length ≤ 6
  distance : (integerText j.distance.toInt).length ≤ 9
  year : 0 ≤ j.date.year ∧ j.date.year ≤ 9999

theorem lines_listing {js : List Jogging} (hne : js ≠ [])
    (hbreaks : ∀ j ∈ js, ∀ text ∈ j.texts, '\n' ∉ text.toList) :
    lines (listing false js).toList = Column.titles columns :: js.map row := by
  have htitles : '\n' ∉ Column.titles columns := by decide +kernel
  have hrows : ∀ l ∈ js.map row, '\n' ∉ l :=
    List.forall_mem_map.mpr fun j hj => not_mem_row (by decide) (hbreaks j hj)
  rw [listing, if_neg (by simpa using hne), tableText, String.toList_ofList]
  exact lines_flatMap (List.forall_mem_cons.mpr ⟨htitles, hrows⟩)

theorem startsAt_titles {k : Nat} {c : Column} (hc : columns[k]? = some c) :
    c.StartsAt c.title.toList (Column.titles columns) (Column.start columns k) := by
  have hk : k ≤ 7 := Nat.le_of_lt_succ (List.getElem?_eq_some_iff.mp hc).1
  have hcell : (columns.map (·.title.toList))[k]? = some c.title.toList := by simp [hc]
  have hexcess : Column.excess columns (columns.map (·.title.toList)) k = 0 :=
    Column.excess_eq_zero (by decide +kernel) hk
  have hstart := Column.startsAt_line (List.length_map _).symm hc hcell
  rwa [hexcess, Nat.add_zero] at hstart

example : (List.range 8).map (Column.start columns) = [0, 7, 20, 31, 40, 50, 67, 74] := by decide

/-- Every cell of a session starts where its column does, but for the weather: a temperature that
is too long moves it. -/
theorem startsAt_row {j : Jogging} (hj : j.FitsColumns) {k : Nat} {c : Column} {cell : List Char}
    (hc : columns[k]? = some c) (hcell : j.cells[k]? = some cell) :
    c.StartsAt cell j.row (Column.start columns k +
      if k = 7 then (optionalCell j.averageTemperature).length - 6 else 0) := by
  have hk : k ≤ 7 := Nat.le_of_lt_succ (List.getElem?_eq_some_iff.mp hc).1
  have hfits : ∀ p ∈ (columns.zip j.cells).take 6, p.2.length ≤ p.1.width := by
    have hdate := (Date.chars_grouped hj.year).length
    have htime := j.time.chars_grouped.length
    simp [columns, cells, hj.id, hj.distance, hdate, htime, length_truncated_le]
  have hexcess : Column.excess columns j.cells k =
      if k = 7 then (optionalCell j.averageTemperature).length - 6 else 0 := by
    split
    · next h7 =>
        subst h7
        have hcolumn : columns[6]? = some ⟨"Temp", 6, false⟩ := rfl
        rw [Column.excess_succ hcolumn rfl, Column.excess_eq_zero hfits (Nat.le_refl 6),
          Nat.zero_add]
    · next h7 => exact Column.excess_eq_zero hfits (by omega)
  rw [← hexcess]
  exact Column.startsAt_line rfl hc hcell

/-- **The columns of the table of sessions.**  The table has the line of titles and a line for each
session, in order, whatever the texts are, as long as none breaks a line.  Where the numbers and the
dates fit, each of the first seven columns starts at one place in all lines, that of its title.  So
does the column of the weather behind temperatures of at most six characters; behind a longer one
the weather is moved by the characters that are too many. -/
theorem listing_columns (js : List Jogging) (hne : js ≠ []) (hfits : ∀ j ∈ js, j.FitsColumns)
    (hbreaks : ∀ j ∈ js, ∀ text ∈ j.texts, '\n' ∉ text.toList) :
    lines (listing false js).toList = Column.titles columns :: js.map row ∧
    (∀ (k : Nat) c, columns[k]? = some c →
      c.StartsAt c.title.toList (Column.titles columns) (Column.start columns k)) ∧
    ∀ j ∈ js, ∀ (k : Nat) c cell, columns[k]? = some c → j.cells[k]? = some cell →
      c.StartsAt cell j.row (Column.start columns k +
        if k = 7 then (optionalCell j.averageTemperature).length - 6 else 0) :=
  ⟨lines_listing hne hbreaks, fun _ _ => startsAt_titles,
    fun j hj _ _ _ => startsAt_row (hfits j hj)⟩

/-- A name of many characters, each of several bytes, leaves the columns behind it in line. -/
theorem listing_columns_kyoto :
    let j : Jogging := ⟨6, 0, "東京都千代田区丸の内一丁目", ⟨2019, 3, 28, by decide⟩, 3000,
      ⟨0, 30, 0, 0, by decide⟩, "京都", some "-29.5", none⟩
    j.FitsColumns ∧ (∀ text ∈ j.texts, '\n' ∉ text.toList) ∧
      lines (listing false [j]).toList = [Column.titles columns, j.row] ∧
      (⟨"Weather", 0, false⟩ : Column).StartsAt ['-'] j.row 74 := by
  intro j
  have hfits : j.FitsColumns := ⟨by decide +kernel, by decide +kernel, by decide⟩
  have hbreaks : ∀ text ∈ j.texts, '\n' ∉ text.toList := by decide +kernel
  obtain ⟨hlines, -, hcells⟩ := listing_columns [j] (List.cons_ne_nil _ _)
    (List.forall_mem_singleton.mpr hfits) (List.forall_mem_singleton.mpr hbreaks)
  exact ⟨hfits, hbreaks, hlines, hcells j List.mem_cons_self 7 _ _ rfl rfl⟩

/-- A temperature of seven characters moves the weather out of its column. -/
theorem weather_moved :
    ¬ ∀ js : List Jogging, js ≠ [] → (∀ j ∈ js, j.FitsColumns) →
      (∀ j ∈ js, ∀ text ∈ j.texts, '\n' ∉ text.toList) →
      lines (listing false js).toList = Column.titles columns :: js.map row ∧
      ∀ j ∈ js, ∀ (k : Nat) c cell, columns[k]? = some c → j.cells[k]? = some cell →
        c.StartsAt cell j.row (Column.start columns k) := by
  intro h
  let j : Jogging := ⟨6, 0, "user2", ⟨2019, 3, 28, by decide⟩, 3000, ⟨0, 30, 0, 0, by decide⟩,
    "Paris", some "-29.555", some "rain"⟩
  have hfits : j.FitsColumns := ⟨by decide +kernel, by decide +kernel, by decide⟩
  have hbreaks : ∀ text ∈ j.texts, '\n' ∉ text.toList := by decide +kernel
  obtain ⟨-, hcells⟩ := h [j] (List.cons_ne_nil _ _) (List.forall_mem_singleton.mpr hfits)
    (List.forall_mem_singleton.mpr hbreaks)
  have hweather := hcells j List.mem_cons_self 7 ⟨"Weather", 0, false⟩ _ rfl rfl
  revert hweather
  decide +kernel

end Jogging

end RecordFilter
