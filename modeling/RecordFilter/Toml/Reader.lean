import RecordFilter.Text.Basic
import RecordFilter.Toml
import RecordFilter.Toml.Quoted

/-! # Reading TOML

A document is read statement by statement. A statement takes a line, or more if its value does;
a comment may stand behind it. Only so many arrays and tables can stand in each other, and names
between dots in a row. -/

namespace RecordFilter

namespace Toml

/-! ### Blanks and comments -/

/-- The text without blanks in front. -/
def dropSpace (cs : List Char) : List Char :=
  cs.dropWhile fun c => c == ' ' || c == '\t'

/-- The text behind a comment that may stand here, in which control characters may not occur. -/
def dropComment : List Char → Option (List Char)
  | '#' :: cs =>
    match cs.dropWhile isPlain with
    | [] => some []
    | '\n' :: rest => some ('\n' :: rest)
    | '\r' :: '\n' :: rest => some ('\n' :: rest)
    | _ => none
  | cs => some cs

/-- The text behind the end of a line, before which blanks and a comment may stand. -/
def endLine (cs : List Char) : Option (List Char) :=
  match dropComment (dropSpace cs) with
  | some [] => some []
  | some ('\n' :: rest) => some rest
  | some ('\r' :: '\n' :: rest) => some rest
  | _ => none

/-- The text behind blanks, comments and ends of lines, of which there are fewer than `fuel`. -/
def dropLines (fuel : Nat) (cs : List Char) : Option (List Char) :=
  match fuel with
  | 0 => none
  | fuel + 1 =>
    match dropSpace cs with
    | '#' :: rest => (endLine ('#' :: rest)).bind (dropLines fuel)
    | '\n' :: rest => dropLines fuel rest
    | '\r' :: '\n' :: rest => dropLines fuel rest
    | rest => some rest

/-! ### Names -/

/-- Whether the character may stand in a name without quotes. -/
def isBare (c : Char) : Bool :=
  c.isAlphanum || c == '_' || c == '-'

/-- Reads a name without dots, or one that is quoted. -/
def readSimpleName (cs : List Char) : Option (String × List Char) :=
  match cs with
  | '"' :: rest => (readEscaped rest).map fun (name, rest) => (String.ofList name, rest)
  | '\'' :: rest => (readLiteral rest).map fun (name, rest) => (String.ofList name, rest)
  | cs =>
    match cs.takeWhile isBare with
    | [] => none
    | name => some (String.ofList name, cs.dropWhile isBare)

/-- Reads the names between dots and the blanks around them. -/
def readNames (fuel : Nat) (cs : List Char) : Option (DottedName × List Char) :=
  match fuel with
  | 0 => none
  | fuel + 1 => do
    let (name, rest) ← readSimpleName (dropSpace cs)
    match dropSpace rest with
    | '.' :: rest =>
      let (dotted, rest) ← readNames fuel rest
      return (⟨name :: dotted.path, dotted.name⟩, rest)
    | rest => return (⟨[], name⟩, rest)

/-- How many arrays and tables may stand in each other. -/
def maxNesting : Nat := 79

/-- Reads a dotted name and the blanks around it. Each of its names but the last is one of a
table, and all of these stand in each other. -/
def readName (fuel : Nat) (cs : List Char) : Option (DottedName × List Char) :=
  (readNames fuel cs).filter fun (dotted, _) => dotted.path.length < maxNesting

/-! ### Numbers -/

/-- Whether a text consists of digits, of which any two may have an underscore between them. -/
def isGrouped (isDigit : Char → Bool) : List Char → Bool
  | [] => false
  | [c] => isDigit c
  | c :: '_' :: cs => isDigit c && isGrouped isDigit cs
  | c :: cs => isDigit c && isGrouped isDigit cs

/-- The text without underscores. -/
def ungrouped (cs : List Char) : List Char :=
  cs.filter (· != '_')

/-- Whether a text is a decimal number without sign, fraction and leading zeros. -/
def isWhole (cs : List Char) : Bool :=
  isGrouped Char.isDigit cs && (cs.head? != some '0' || cs.length == 1)

/-- The number that digits spell in a base of at most 16. -/
def readBase? (base : Nat) (cs : List Char) : Option Nat :=
  let value (c : Char) : Nat := (hexValue? c).getD base
  if isGrouped (value · < base) cs then
    some ((ungrouped cs).foldl (fun n c => base * n + value c) 0)
  else none

/-- The number that a text without sign spells. -/
def readNatural? : List Char → Option Nat
  | '0' :: 'x' :: cs => readBase? 16 cs
  | '0' :: 'o' :: cs => readBase? 8 cs
  | '0' :: 'b' :: cs => readBase? 2 cs
  | cs => if isWhole cs then some (digitsValue (ungrouped cs)) else none

/-- A 64-bit number as a value. -/
def ofInt? (n : Int) : Option Toml :=
  (toInt64? n).map fun _ => .integer n

/-- The value that a sign and the text of an integer spell. Only decimal integers have signs. -/
def readInteger? : List Char → Option Toml
  | '+' :: cs => if isWhole cs then ofInt? (digitsValue (ungrouped cs)) else none
  | '-' :: cs => if isWhole cs then ofInt? (-(digitsValue (ungrouped cs) : Int)) else none
  | cs => (readNatural? cs).bind fun n => ofInt? n

/-- The text behind an optional sign. -/
def dropSign : List Char → List Char
  | '+' :: cs => cs
  | '-' :: cs => cs
  | cs => cs

/-- Whether a text has an integer in front of its exponent, and also a fraction if it contains a
dot. -/
def isMantissa (cs : List Char) : Bool :=
  match cs.dropWhile (· != '.') with
  | [] => isWhole cs
  | _ :: fraction => isWhole (cs.takeWhile (· != '.')) && isGrouped Char.isDigit fraction

/-- Whether the character stands between a number and its exponent. -/
def isExponentMark (c : Char) : Bool :=
  c == 'e' || c == 'E'

/-- What stands before the exponent of a number. -/
def mantissa (cs : List Char) : List Char :=
  cs.takeWhile (!isExponentMark ·)

/-- What stands behind the mark of the exponent, if there is one. -/
def exponent? (cs : List Char) : Option (List Char) :=
  (cs.dropWhile (!isExponentMark ·)).tail?

/-- Whether a text without sign is a number with a fraction or an exponent. -/
def isDecimal (cs : List Char) : Bool :=
  isMantissa (mantissa cs) &&
    match exponent? cs with
    | none => cs.contains '.'
    | some exponent => isGrouped Char.isDigit (dropSign exponent)

/-- The exponent of a number, zero if none is written. -/
def exponentValue (cs : List Char) : Int :=
  match exponent? cs with
  | none => 0
  | some exponent =>
    let size := digitsValue (ungrouped (dropSign exponent))
    if exponent.head? = some '-' then -size else size

/-- The least whole number that is nearer to infinity than to a binary number of 64 bits: those
have 53 bits behind at most 971 zeros, and this one is halfway behind the greatest of them. -/
def infinityBound : Nat := 0x3FFFFFFFFFFFFF <<< 970

/-- The number of digits of the bound. -/
def infinityDigits : Nat := 309

/-- Whether a number without sign is so great that it is rounded to infinity. Only the position
of the point counts, and the whole part if it has as many digits as the bound. -/
def isInfinite (cs : List Char) : Bool :=
  let whole := (ungrouped (mantissa cs)).takeWhile (· != '.')
  let fraction := ((ungrouped (mantissa cs)).dropWhile (· != '.')).tail
  let digits := (whole ++ fraction).dropWhile (· == '0')
  let position := (digits.length : Int) - fraction.length + exponentValue cs
  let wholePart := (digits ++ List.replicate infinityDigits '0').take infinityDigits
  digits != [] && (infinityDigits < position ||
    (position = infinityDigits && infinityBound ≤ digitsValue wholePart))

/-- The value that a word without quotes spells. A number may be infinite by its name, or by its
size if it is negative. -/
def ofWord? (word : List Char) : Option Toml :=
  let unsigned := dropSign word
  if word = ['t', 'r', 'u', 'e'] then some (.flag true)
  else if word = ['f', 'a', 'l', 's', 'e'] then some (.flag false)
  else if unsigned = ['i', 'n', 'f'] ∨ unsigned = ['n', 'a', 'n'] then some .decimal
  else if isDecimal unsigned then
    if isInfinite unsigned && word.head? != some '-' then none else some .decimal
  else readInteger? word

/-- Whether the character can belong to a value without quotes. -/
def isWordChar (c : Char) : Bool :=
  isBare c || c == '+' || c == '.'

/-! ### Values -/

mutual

/-- Reads a value, in at most `fuel` nested steps, in which at most `depth` arrays and tables may
stand in each other. -/
def readValue (fuel depth : Nat) (cs : List Char) : Option (Toml × List Char) :=
  match fuel with
  | 0 => none
  | fuel + 1 =>
    match cs with
    | '[' :: rest =>
      match depth with
      | 0 => none
      | depth + 1 =>
        (readItems fuel depth rest).map fun (items, rest) => (.array items, rest)
    | '\x7b' :: rest =>
      match depth with
      | 0 => none
      | depth + 1 =>
        match dropSpace rest with
        | '\x7d' :: rest => some (.table .braced [], rest)
        | _ =>
          (readMembers fuel depth [] rest).map fun (members, rest) =>
            (.table .braced members, rest)
    | c :: rest =>
      if c = '"' ∨ c = '\'' then
        (readQuoted (c :: rest)).map fun (content, rest) => (.text (String.ofList content), rest)
      else
        match readMoment (c :: rest) with
        | some rest => some (.moment, rest)
        | none => (ofWord? (cs.takeWhile isWordChar)).map (·, cs.dropWhile isWordChar)
    | [] => none

/-- Reads the items of an array and its closing bracket. A comma may follow the last item. -/
def readItems (fuel depth : Nat) (cs : List Char) : Option (List Toml × List Char) :=
  match fuel with
  | 0 => none
  | fuel + 1 => do
    match ← dropLines fuel cs with
    | ']' :: rest => return ([], rest)
    | rest =>
      let (item, rest) ← readValue fuel depth rest
      match ← dropLines fuel rest with
      | ',' :: rest =>
        let (items, rest) ← readItems fuel depth rest
        return (item :: items, rest)
      | ']' :: rest => return ([item], rest)
      | _ => none

/-- Reads the members of a table in braces, at least one, and its closing brace. -/
def readMembers (fuel depth : Nat) (table : TomlTable) (cs : List Char) :
    Option (TomlTable × List Char) :=
  match fuel with
  | 0 => none
  | fuel + 1 => do
    let (name, rest) ← readName fuel cs
    let '=' :: rest := rest | none
    let (value, rest) ← readValue fuel depth (dropSpace rest)
    let table ← TomlTable.assign name.path name.name value table
    match dropSpace rest with
    | ',' :: rest => readMembers fuel depth table rest
    | '\x7d' :: rest => return (table, rest)
    | _ => none

end

/-! ### Documents -/

/-- Reads a statement with blanks around it. -/
def readStatement (fuel : Nat) : List Char → Option (TomlStatement × List Char)
  | '[' :: '[' :: cs => do
    let (name, rest) ← readName fuel cs
    let ']' :: ']' :: rest := rest | none
    return (.rowHeading name, rest)
  | '[' :: cs => do
    let (name, rest) ← readName fuel cs
    let ']' :: rest := rest | none
    return (.heading name, rest)
  | cs => do
    let (name, rest) ← readName fuel cs
    let '=' :: rest := rest | none
    let (value, rest) ← readValue fuel maxNesting (dropSpace rest)
    return (.member name value, rest)

/-- Reads the statements of a text, in at most `fuel` nested steps. -/
def readStatements (fuel : Nat) (cs : List Char) : Option (List TomlStatement) :=
  match fuel with
  | 0 => none
  | fuel + 1 => do
    match ← dropLines fuel cs with
    | [] => return []
    | rest =>
      let (statement, rest) ← readStatement fuel rest
      let rest ← endLine rest
      return statement :: (← readStatements fuel rest)

/-- The text without a byte order mark. -/
def dropMark : List Char → List Char
  | '\ufeff' :: cs => cs
  | cs => cs

end Toml

/-- The document that a text spells. Every nested step reads a character, but for at most two
more steps before it, which bounds their number. -/
def TomlTable.read? (s : String) : Option TomlTable := do
  let cs := Toml.dropMark s.toList
  TomlTable.ofStatements (← Toml.readStatements (3 * cs.length + 3) cs)

end RecordFilter
