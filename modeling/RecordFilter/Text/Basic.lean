/-! # Texts

Taking texts apart, the numbers that they spell, and how far two of them are from each other. -/

namespace RecordFilter

/-! ## Parts of a text

A text falls into parts between the places at which a separator stands. -/

/-- The first part of a text, which ends before the first separator, and the other parts. -/
def parts (separator : Char) : List Char → List Char × List (List Char)
  | [] => ([], [])
  | c :: cs =>
    let (first, others) := parts separator cs
    if c = separator then ([], first :: others) else (c :: first, others)

/-- The parts of a text that are not empty. -/
def properParts (separator : Char) (cs : List Char) : List (List Char) :=
  let (first, others) := parts separator cs
  (first :: others).filter (!·.isEmpty)

/-! ## Decimal numerals

Writing numbers in ASCII digits and reading them back. -/

/-- The decimal digits of a number, without leading zeros. -/
def numeral (n : Nat) : List Char :=
  Nat.toDigits 10 n

/-- The digits of a number, with zeros in front up to the given width. -/
def paddedNumeral (width n : Nat) : List Char :=
  let digits := numeral n
  List.replicate (width - digits.length) '0' ++ digits

/-- The number that digits spell, read from left to right. -/
def digitsValue (digits : List Char) : Nat :=
  Nat.ofDigitChars 10 digits 0

/-- The decimal spelling of an integer. -/
def integerText (n : Int) : List Char :=
  if n < 0 then '-' :: numeral n.natAbs else numeral n.natAbs

/-- The digits at the front of a text, at most `width` of them, and the text behind them. At
least one is required. -/
def readDigits (width : Nat) (cs : List Char) : Option (List Char × List Char) :=
  let digits := (cs.take width).takeWhile Char.isDigit
  if digits.isEmpty then none else some (digits, cs.drop digits.length)

/-- The number that at most `width` digits at the front of a text spell. -/
def readNumber (width : Nat) (cs : List Char) : Option (Nat × List Char) :=
  (readDigits width cs).map fun (digits, rest) => (digitsValue digits, rest)

/-- The integer as a 64-bit number, if it is one. -/
def toInt64? (n : Int) : Option Int64 :=
  if Int64.minValue.toInt ≤ n ∧ n ≤ Int64.maxValue.toInt then some (Int64.ofInt n) else none

/-- The natural number that a text of digits and nothing else spells. -/
def readNat? (cs : List Char) : Option Nat :=
  if !cs.isEmpty && cs.all Char.isDigit then some (digitsValue cs) else none

/-- The 64-bit number that a text spells: an optional sign and digits. -/
def readInt64? : List Char → Option Int64
  | '-' :: digits => (readNat? digits).bind fun n => toInt64? (-n)
  | '+' :: digits => (readNat? digits).bind fun n => toInt64? n
  | digits => (readNat? digits).bind fun n => toInt64? n

/-! ## Hexadecimal codes

Digits of base 16. They are written in lowercase and read in either case. -/

/-- The hexadecimal digit of a number below 16. -/
def hexDigit (n : Nat) : Char :=
  if n < 10 then Char.ofNat (48 + n) else Char.ofNat (87 + n)

/-- The value of a hexadecimal digit. -/
def hexValue? (c : Char) : Option Nat :=
  if c.isDigit then some (c.toNat - 48)
  else if 'a' ≤ c ∧ c ≤ 'f' then some (c.toNat - 87)
  else if 'A' ≤ c ∧ c ≤ 'F' then some (c.toNat - 55)
  else none

/-- The number that hexadecimal digits spell, continuing from the value of those before them. -/
def hexCodeFrom? (value : Nat) : List Char → Option Nat
  | [] => some value
  | c :: cs => (hexValue? c).bind fun digit => hexCodeFrom? (16 * value + digit) cs

/-- The number that hexadecimal digits spell. -/
def hexCode? (cs : List Char) : Option Nat :=
  hexCodeFrom? 0 cs

/-! ## Edit distance

The least number of insertions, deletions and substitutions of single characters that turn one
text into another. The distances from every end part of the second text are computed together,
one row for each end part of the first. -/

/-- The row for `c :: cs`, given the text `b` and the row for `cs`. A row holds the distances
to `b`, to `b` without its first character, and so on down to the empty text. -/
def distanceRow (c : Char) : List Char → List Nat → List Nat
  | d :: ds, below :: lower =>
    let row := distanceRow c ds lower
    let replace := lower.headD 0 + (if c = d then 0 else 1)
    min (min (below + 1) (row.headD 0 + 1)) replace :: row
  | _, row => row.map (· + 1)

/-- The distances of `a` to all end parts of `b`, the longest first. -/
def distances : (a b : List Char) → List Nat
  | [], b => (List.range (b.length + 1)).reverse
  | c :: a, b => distanceRow c b (distances a b)

/-- The edit distance of two texts. -/
def editDistance (a b : List Char) : Nat :=
  (distances a b).headD 0

end RecordFilter
