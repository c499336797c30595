import RecordFilter.Text.Basic
import RecordFilter.Text.CharacterClass

/-! # The calendar

Days and times of day. -/

namespace RecordFilter

/-! ## Calendar dates

Days of the proleptic Gregorian calendar, their order and their written form
`year-month-day`. Years are counted astronomically, so that 1 BCE is the year 0; a year outside
0 to 9999 is written with a sign and at least four digits. -/

/-- Whether the year has a 29 February. -/
def isLeapYear (year : Int) : Bool :=
  year % 4 == 0 && (year % 100 != 0 || year % 400 == 0)

/-- The number of days of a month. -/
def daysInMonth (year : Int) (month : Nat) : Nat :=
  if month = 2 then (if isLeapYear year then 29 else 28)
  else if month = 4 ∨ month = 6 ∨ month = 9 ∨ month = 11 then 30
  else 31

/-- The numbers that make up a date. The calendar spans 2¹⁸ years but for the first and the
last. -/
def IsDate (year : Int) (month day : Nat) : Prop :=
  (-262143 ≤ year ∧ year ≤ 262142) ∧ (1 ≤ month ∧ month ≤ 12) ∧
    (1 ≤ day ∧ day ≤ daysInMonth year month)

instance (year : Int) (month day : Nat) : Decidable (IsDate year month day) :=
  inferInstanceAs (Decidable (_ ∧ _))

/-- A day of the calendar. -/
structure Date where
  year : Int
  month : Nat
  day : Nat
  isDate : IsDate year month day
  deriving DecidableEq

namespace Date

/-- The date with the given numbers, if they make up one. -/
def ofNumbers? (year : Int) (month day : Nat) : Option Date :=
  if h : IsDate year month day then some ⟨year, month, day, h⟩ else none

/-- Earlier dates come first. -/
def compare (a b : Date) : Ordering :=
  (Ord.compare a.year b.year).then
    ((Ord.compare a.month b.month).then (Ord.compare a.day b.day))

/-! ### Writing -/

/-- A year in four digits, or with a sign where four digits do not suffice. -/
def yearText (year : Int) : List Char :=
  if year < 0 then '-' :: paddedNumeral 4 year.natAbs
  else if year < 10000 then paddedNumeral 4 year.natAbs
  else '+' :: paddedNumeral 4 year.natAbs

/-- The written form of a date. -/
def chars (d : Date) : List Char :=
  yearText d.year ++ '-' :: paddedNumeral 2 d.month ++ '-' :: paddedNumeral 2 d.day

/-- The written form of a date. -/
def text (d : Date) : String :=
  String.ofList d.chars

/-! ### Reading -/

/-- A year in at most four digits, or in any number of digits behind a sign. White space may
stand before it. -/
def readYear (cs : List Char) : Option (Int × List Char) :=
  match dropBlanks cs with
  | '-' :: rest => (readNumber rest.length rest).map fun (n, rest) => (-(n : Int), rest)
  | '+' :: rest => (readNumber rest.length rest).map fun (n, rest) => ((n : Int), rest)
  | rest => (readNumber 4 rest).map fun (n, rest) => ((n : Int), rest)

/-- Reads a date from a whole text. White space may stand before each number; what may stand
before each dash and at the end is skipped by `gap`. -/
def readWith (gap : List Char → List Char) (cs : List Char) : Option Date := do
  let (year, cs) ← readYear cs
  let '-' :: cs := gap cs | none
  let (month, cs) ← readNumber 2 (dropBlanks cs)
  let '-' :: cs := gap cs | none
  let (day, cs) ← readNumber 2 (dropBlanks cs)
  if (gap cs).isEmpty then ofNumbers? year month day else none

/-- Reads the content of a date literal. -/
def read? (cs : List Char) : Option Date :=
  readWith id cs

/-- Reads a stored date, in which white space may also stand before the dashes and at the
end. -/
def readLoose? (cs : List Char) : Option Date :=
  readWith dropBlanks cs

end Date

/-! ## Times of day

Times with nanoseconds. A leap second lengthens the last second of a minute: it is written as
second 60 and counts as a second 59 of which more than a whole second has passed. -/

/-- The numbers that make up a time of day. From 10⁹ on the nanoseconds belong to a leap
second. -/
def IsTimeOfDay (hour minute second nanosecond : Nat) : Prop :=
  hour < 24 ∧ minute < 60 ∧ second < 60 ∧
    (nanosecond < 1000000000 ∨ nanosecond < 2000000000 ∧ second = 59)

instance (hour minute second nanosecond : Nat) :
    Decidable (IsTimeOfDay hour minute second nanosecond) :=
  inferInstanceAs (Decidable (_ ∧ _))

/-- A time of day. -/
structure TimeOfDay where
  hour : Nat
  minute : Nat
  second : Nat
  nanosecond : Nat
  isTimeOfDay : IsTimeOfDay hour minute second nanosecond
  deriving DecidableEq

namespace TimeOfDay

/-- The time with the given numbers, if they make up one. -/
def ofNumbers? (hour minute second nanosecond : Nat) : Option TimeOfDay :=
  if h : IsTimeOfDay hour minute second nanosecond then
    some ⟨hour, minute, second, nanosecond, h⟩
  else none

/-- Earlier times come first, a leap second after the 59 seconds before it. -/
def compare (a b : TimeOfDay) : Ordering :=
  (Ord.compare a.hour b.hour).then
    ((Ord.compare a.minute b.minute).then
      ((Ord.compare a.second b.second).then (Ord.compare a.nanosecond b.nanosecond)))

/-- Whether the time lies in a leap second. -/
def isLeapSecond (t : TimeOfDay) : Bool :=
  decide (1000000000 ≤ t.nanosecond)

/-! ### Writing -/

/-- The second that is written, 60 in a leap second. -/
def shownSecond (t : TimeOfDay) : Nat :=
  t.second + t.nanosecond / 1000000000

/-- The written form without a fraction. -/
def chars (t : TimeOfDay) : List Char :=
  paddedNumeral 2 t.hour ++ ':' :: paddedNumeral 2 t.minute ++ ':' :: paddedNumeral 2 t.shownSecond

/-- The written form without a fraction. -/
def text (t : TimeOfDay) : String :=
  String.ofList t.chars

/-- The fraction of a second in three, six or nine digits, whichever are enough. -/
def fractionText (nanosecond : Nat) : List Char :=
  if nanosecond = 0 then []
  else if nanosecond % 1000000 = 0 then '.' :: paddedNumeral 3 (nanosecond / 1000000)
  else if nanosecond % 1000 = 0 then '.' :: paddedNumeral 6 (nanosecond / 1000)
  else '.' :: paddedNumeral 9 nanosecond

/-- The written form with the fraction of the second. -/
def preciseChars (t : TimeOfDay) : List Char :=
  t.chars ++ fractionText (t.nanosecond % 1000000000)

/-- The written form with the fraction of the second. -/
def preciseText (t : TimeOfDay) : String :=
  String.ofList t.preciseChars

/-! ### Reading -/

/-- The time of day whose second is written as `second`. -/
def ofShown? (hour minute second nanosecond : Nat) : Option TimeOfDay :=
  if second = 60 then ofNumbers? hour minute 59 (1000000000 + nanosecond)
  else ofNumbers? hour minute second nanosecond

/-- Reads a number of at most two digits that white space may precede. -/
def readPart (cs : List Char) : Option (Nat × List Char) :=
  readNumber 2 (dropBlanks cs)

/-- Reads the content of a time literal, which is no leap second. -/
def read? (cs : List Char) : Option TimeOfDay := do
  let (hour, cs) ← readPart cs
  let ':' :: cs := cs | none
  let (minute, cs) ← readPart cs
  let ':' :: cs := cs | none
  let (second, cs) ← readPart cs
  if cs.isEmpty then ofNumbers? hour minute second 0 else none

/-- Reads an optional fraction of a second. Digits beyond the ninth are dropped. -/
def readFraction : List Char → Option (Nat × List Char)
  | '.' :: cs => do
    let (digits, rest) ← readDigits 9 cs
    let padding := List.replicate (9 - digits.length) '0'
    some (digitsValue (digits ++ padding), rest.dropWhile Char.isDigit)
  | cs => some (0, cs)

/-- Reads a stored time, in which white space may also stand before the colons and at the end,
and which may leave out the seconds. -/
def readLoose? (cs : List Char) : Option TimeOfDay := do
  let (hour, cs) ← readPart cs
  let ':' :: cs := dropBlanks cs | none
  let (minute, cs) ← readPart cs
  match dropBlanks cs with
  | [] => ofNumbers? hour minute 0 0
  | ':' :: cs =>
    let (second, cs) ← readPart cs
    let (nanosecond, cs) ← readFraction cs
    if (dropBlanks cs).isEmpty then ofShown? hour minute second nanosecond else none
  | _ => none

end TimeOfDay

end RecordFilter
