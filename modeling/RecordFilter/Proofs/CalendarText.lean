import RecordFilter.Calendar
import RecordFilter.Proofs.Numerals
import RecordFilter.Proofs.Tokens

/-! # Dates and times in quoted literals

Quoted literals are sorted by the shape of their content: `dddd-dd-dd` for dates, `dd:dd:dd` for
times.  Both are three groups of digits with a separator between them (`Grouped`).  A content of
such a shape denotes a date or a time exactly if that date or time is written so
(`Date.read?_eq_some_iff`, `TimeOfDay.read?_eq_some_iff`), and every date of a year of four digits
and every time of day is written in its shape. -/

namespace RecordFilter

/-! ### Groups of digits -/

/-- `Grouped sep width cs a b c`: the text `cs` consists of `width` digits, two digits and two
digits, with `sep` between the groups. -/
def Grouped (sep : Char) (width : Nat) (cs a b c : List Char) : Prop :=
  IsDigits width a ∧ IsDigits 2 b ∧ IsDigits 2 c ∧ cs = a ++ sep :: (b ++ sep :: c)

/-- A text of the shape `dddd-dd-dd`. -/
def IsDateShaped (cs : List Char) : Prop :=
  ∃ y m d, Grouped '-' 4 cs y m d

/-- A text of the shape `dd:dd:dd`. -/
def IsTimeShaped (cs : List Char) : Prop :=
  ∃ h m s, Grouped ':' 2 cs h m s

theorem Grouped.unique {sep : Char} {width : Nat} {cs a b c a' b' c' : List Char}
    (h : Grouped sep width cs a b c) (h' : Grouped sep width cs a' b' c') :
    a = a' ∧ b = b' ∧ c = c' := by
  obtain ⟨ha, hb, _, rfl⟩ := h
  obtain ⟨ha', hb', _, he⟩ := h'
  obtain ⟨rfl, h1⟩ := List.append_inj he (ha.1.trans ha'.1.symm)
  obtain ⟨rfl, h2⟩ := List.append_inj (List.cons.inj h1).2 (hb.1.trans hb'.1.symm)
  exact ⟨rfl, rfl, (List.cons.inj h2).2⟩

theorem Grouped.length {sep : Char} {width : Nat} {cs a b c : List Char}
    (h : Grouped sep width cs a b c) : cs.length = width + 6 := by
  obtain ⟨ha, hb, hc, rfl⟩ := h
  simp [ha.1, hb.1, hc.1]

theorem Grouped.not_mem_quote {sep : Char} (hs : sep ≠ '\'') {width : Nat}
    {cs a b c : List Char} (h : Grouped sep width cs a b c) : '\'' ∉ cs := by
  obtain ⟨ha, hb, hc, rfl⟩ := h
  have hd : ∀ {n : Nat} {ds : List Char}, IsDigits n ds → '\'' ∉ ds :=
    fun h hm => absurd (h.2 _ hm) (by decide)
  simp [hd ha, hd hb, hd hc, hs.symm]

theorem hasShape_nil_iff {cs : List Char} : hasShape cs [] = true ↔ cs = [] := by
  cases cs <;> simp [hasShape]

theorem hasShape_cons_iff {cs shape : List Char} {s : Char} (hs : s ≠ 'd') :
    hasShape cs (s :: shape) = true ↔ ∃ rest, cs = s :: rest ∧ hasShape rest shape = true := by
  cases cs with
  | nil => simp [hasShape]
  | cons c cs =>
      simp only [hasShape, beq_iff_eq, hs, if_false, Bool.and_eq_true, List.cons.injEq]
      constructor
      · rintro ⟨rfl, h⟩
        exact ⟨cs, ⟨rfl, rfl⟩, h⟩
      · rintro ⟨rest, ⟨rfl, rfl⟩, h⟩
        exact ⟨rfl, h⟩

theorem hasShape_digits_iff {n : Nat} {cs shape : List Char} :
    hasShape cs (List.replicate n 'd' ++ shape) = true ↔
      ∃ ds rest, IsDigits n ds ∧ cs = ds ++ rest ∧ hasShape rest shape = true := by
  induction n generalizing cs with
  | zero =>
      constructor
      · intro h
        exact ⟨[], cs, ⟨rfl, by simp⟩, rfl, h⟩
      · rintro ⟨ds, rest, hd, rfl, h⟩
        rwa [List.eq_nil_of_length_eq_zero hd.1]
  | succ n ih =>
      cases cs with
      | nil =>
          simp only [List.replicate_succ, List.cons_append, hasShape, Bool.false_eq_true,
            false_iff]
          rintro ⟨ds, rest, hd, he, -⟩
          rw [(List.append_eq_nil_iff.mp he.symm).1] at hd
          cases hd.1
      | cons c cs =>
          simp only [List.replicate_succ, List.cons_append, hasShape, beq_self_eq_true, if_true,
            Bool.and_eq_true, ih]
          constructor
          · rintro ⟨hc, ds, rest, hd, rfl, h⟩
            refine ⟨c :: ds, rest, ⟨by simp [hd.1], fun d hd' => ?_⟩, rfl, h⟩
            rcases List.mem_cons.mp hd' with rfl | hd'
            · exact hc
            · exact hd.2 d hd'
          · rintro ⟨ds, rest, hd, he, h⟩
            cases ds with
            | nil => cases hd.1
            | cons d ds =>
                obtain ⟨rfl, rfl⟩ := List.cons.inj he
                refine ⟨hd.2 c List.mem_cons_self, ds, rest, ⟨?_, fun d hd' => ?_⟩, rfl, h⟩
                · simpa using hd.1
                · exact hd.2 d (List.mem_cons_of_mem _ hd')

theorem hasShape_grouped_iff {sep : Char} (hs : sep ≠ 'd') {width : Nat} {cs : List Char} :
    hasShape cs (List.replicate width 'd' ++ sep :: (List.replicate 2 'd' ++ sep ::
      (List.replicate 2 'd' ++ []))) = true ↔ ∃ a b c, Grouped sep width cs a b c := by
  simp only [hasShape_digits_iff, hasShape_cons_iff hs, hasShape_nil_iff]
  constructor
  · rintro ⟨a, _, ha, rfl, _, rfl, b, _, hb, rfl, _, rfl, c, _, hc, rfl, rfl⟩
    exact ⟨a, b, c, ha, hb, hc, by rw [List.append_nil]⟩
  · rintro ⟨a, b, c, ha, hb, hc, rfl⟩
    exact ⟨a, _, ha, rfl, _, rfl, b, _, hb, rfl, _, rfl, c, [], hc, by rw [List.append_nil], rfl⟩

/-! ### The shape of a quoted literal -/

theorem not_isTimeShaped_of_isDateShaped {cs : List Char} (h : IsDateShaped cs) :
    ¬ IsTimeShaped cs := by
  obtain ⟨_, _, _, h⟩ := h
  rintro ⟨_, _, _, h'⟩
  have h1 := h.length
  have h2 := h'.length
  omega

theorem quotedShape_of_date {cs : List Char} (h : IsDateShaped cs) : quotedShape cs = .date :=
  if_pos ((hasShape_grouped_iff (by decide)).mpr h)

theorem quotedShape_of_time {cs : List Char} (h : IsTimeShaped cs) : quotedShape cs = .time := by
  have hd : ¬ IsDateShaped cs := fun h' => not_isTimeShaped_of_isDateShaped h' h
  exact (if_neg fun h' => hd ((hasShape_grouped_iff (by decide)).mp h')).trans
    (if_pos ((hasShape_grouped_iff (by decide)).mpr h))

theorem quotedShape_of_text {cs : List Char} (hd : ¬ IsDateShaped cs) (ht : ¬ IsTimeShaped cs) :
    quotedShape cs = .text :=
  (if_neg fun h' => hd ((hasShape_grouped_iff (by decide)).mp h')).trans
    (if_neg fun h' => ht ((hasShape_grouped_iff (by decide)).mp h'))

/-! ### Dates -/

theorem dropBlanks_digits {n : Nat} {digits : List Char} (h : IsDigits (n + 1) digits)
    (rest : List Char) : dropBlanks (digits ++ rest) = digits ++ rest := by
  cases digits with
  | nil => cases h.1
  | cons c cs =>
      have := isBlank_of_isDigit (h.2 c List.mem_cons_self)
      simp [dropBlanks, this]

namespace Date

theorem readYear_digits {y : List Char} (h : IsDigits 4 y) (rest : List Char) :
    readYear (y ++ rest) = some ((digitsValue y : Int), rest) := by
  unfold readYear
  rw [dropBlanks_digits h]
  have hn := readNumber_append (by decide) h rest
  have hs : ∀ sign : Char, sign.isDigit = false → ∀ cs, y ++ rest ≠ sign :: cs := by
    intro sign hs cs he
    cases y with
    | nil => cases h.1
    | cons c y =>
        obtain ⟨rfl, -⟩ := List.cons.inj he
        rw [h.2 _ List.mem_cons_self] at hs
        cases hs
  split
  · next he => exact absurd he (hs '-' (by decide) _)
  · next he => exact absurd he (hs '+' (by decide) _)
  · rw [hn]
    rfl

theorem read?_grouped {cs y m d : List Char} (h : Grouped '-' 4 cs y m d) :
    read? cs = ofNumbers? (digitsValue y) (digitsValue m) (digitsValue d) := by
  obtain ⟨hy, hm, hd, rfl⟩ := h
  have h1 := readYear_digits hy ('-' :: (m ++ '-' :: d))
  have h2 := readNumber_append (by decide) hm ('-' :: d)
  have h3 := readNumber_append (by decide) hd []
  rw [List.append_nil] at h3
  have h4 := dropBlanks_digits hd []
  rw [List.append_nil] at h4
  simp [read?, readWith, h1, dropBlanks_digits hm, h2, h4, h3]

theorem ofNumbers?_eq_some_iff {year : Int} {month day : Nat} {d : Date} :
    ofNumbers? year month day = some d ↔ d.year = year ∧ d.month = month ∧ d.day = day := by
  unfold ofNumbers?
  constructor
  · intro h
    split at h
    · cases h
      exact ⟨rfl, rfl, rfl⟩
    · cases h
  · rintro ⟨rfl, rfl, rfl⟩
    rw [dif_pos d.isDate]

theorem daysInMonth_le (year : Int) (month : Nat) : daysInMonth year month ≤ 31 := by
  unfold daysInMonth
  split
  · split <;> omega
  · split <;> omega

theorem chars_grouped {d : Date} (h : 0 ≤ d.year ∧ d.year ≤ 9999) :
    Grouped '-' 4 d.chars (paddedNumeral 4 d.year.natAbs) (paddedNumeral 2 d.month)
      (paddedNumeral 2 d.day) := by
  obtain ⟨-, ⟨-, hm⟩, -, hd⟩ := d.isDate
  have hd' := hd.trans (daysInMonth_le d.year d.month)
  refine ⟨paddedNumeral_isDigits (by decide) (by omega),
    paddedNumeral_isDigits (by decide) (by omega),
    paddedNumeral_isDigits (by decide) (by omega), ?_⟩
  rw [chars, yearText, if_neg (by omega), if_pos (by omega)]
  simp

/-- Only a year of four digits is written without a sign. -/
theorem year_of_grouped {d : Date} {a b c : List Char} (h : Grouped '-' 4 d.chars a b c) :
    0 ≤ d.year ∧ d.year ≤ 9999 := by
  obtain ⟨ha, -, -, he⟩ := h
  cases a with
  | nil => cases ha.1
  | cons x a =>
      have hx := ha.2 x List.mem_cons_self
      unfold chars yearText at he
      split at he
      · obtain ⟨rfl, -⟩ := List.cons.inj he
        exact absurd hx (by decide)
      · split at he
        · omega
        · obtain ⟨rfl, -⟩ := List.cons.inj he
          exact absurd hx (by decide)

/-- A content of the shape of a date denotes the date that is written so. -/
theorem read?_eq_some_iff {cs : List Char} (h : IsDateShaped cs) {d : Date} :
    read? cs = some d ↔ d.chars = cs := by
  obtain ⟨y, m, e, h⟩ := h
  rw [read?_grouped h, ofNumbers?_eq_some_iff]
  constructor
  · rintro ⟨hy, hm, he⟩
    have hv := digitsValue_lt h.1
    obtain ⟨-, -, -, hc⟩ := chars_grouped (d := d) (by omega)
    rw [hc, hy, hm, he, Int.natAbs_natCast, paddedNumeral_digitsValue (by decide) h.1,
      paddedNumeral_digitsValue (by decide) h.2.1, paddedNumeral_digitsValue (by decide) h.2.2.1]
    exact h.2.2.2.symm
  · rintro rfl
    have hy := year_of_grouped h
    obtain ⟨rfl, rfl, rfl⟩ := h.unique (chars_grouped hy)
    simp only [digitsValue_paddedNumeral, and_self, and_true]
    omega

end Date

/-! ### Times of day -/

namespace TimeOfDay

theorem readPart_digits {digits : List Char} (h : IsDigits 2 digits) (rest : List Char) :
    readPart (digits ++ rest) = some (digitsValue digits, rest) := by
  rw [readPart, dropBlanks_digits h, readNumber_append (by decide) h]

theorem read?_grouped {cs h m s : List Char} (hg : Grouped ':' 2 cs h m s) :
    read? cs = ofNumbers? (digitsValue h) (digitsValue m) (digitsValue s) 0 := by
  obtain ⟨hh, hm, hs, rfl⟩ := hg
  have h1 := readPart_digits hs []
  rw [List.append_nil] at h1
  simp [read?, readPart_digits hh, readPart_digits hm, h1]

theorem ofNumbers?_eq_some_iff {hour minute second nanosecond : Nat} {t : TimeOfDay} :
    ofNumbers? hour minute second nanosecond = some t ↔
      t.hour = hour ∧ t.minute = minute ∧ t.second = second ∧ t.nanosecond = nanosecond := by
  unfold ofNumbers?
  constructor
  · intro h
    split at h
    · cases h
      exact ⟨rfl, rfl, rfl, rfl⟩
    · cases h
  · rintro ⟨rfl, rfl, rfl, rfl⟩
    rw [dif_pos t.isTimeOfDay]

theorem chars_grouped (t : TimeOfDay) :
    Grouped ':' 2 t.chars (paddedNumeral 2 t.hour) (paddedNumeral 2 t.minute)
      (paddedNumeral 2 t.shownSecond) := by
  obtain ⟨hh, hm, hs, hn⟩ := t.isTimeOfDay
  have hs' : t.shownSecond < 10 ^ 2 := by
    unfold shownSecond
    omega
  refine ⟨paddedNumeral_isDigits (by decide) (by omega),
    paddedNumeral_isDigits (by decide) (by omega), paddedNumeral_isDigits (by decide) hs', ?_⟩
  rw [chars]
  simp

/-- A content of the shape of a time denotes the whole second that is written so. -/
theorem read?_eq_some_iff {cs : List Char} (h : IsTimeShaped cs) {t : TimeOfDay} :
    read? cs = some t ↔ t.chars = cs ∧ t.nanosecond = 0 := by
  obtain ⟨a, b, c, h⟩ := h
  rw [read?_grouped h, ofNumbers?_eq_some_iff]
  constructor
  · rintro ⟨ha, hb, hc, hn⟩
    obtain ⟨-, -, -, hw⟩ := t.chars_grouped
    refine ⟨?_, hn⟩
    rw [hw, shownSecond, hn, ha, hb, hc, Nat.zero_div, Nat.add_zero,
      paddedNumeral_digitsValue (by decide) h.1, paddedNumeral_digitsValue (by decide) h.2.1,
      paddedNumeral_digitsValue (by decide) h.2.2.1]
    exact h.2.2.2.symm
  · rintro ⟨rfl, hn⟩
    obtain ⟨rfl, rfl, rfl⟩ := h.unique t.chars_grouped
    simp [shownSecond, hn]

end TimeOfDay

end RecordFilter
