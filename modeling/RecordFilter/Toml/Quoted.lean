import RecordFilter.Text.Basic

/-! # Quoted texts in TOML

A text is written between double quotes, with escapes, or between single quotes, as it is. Three
quotes in place of one allow line breaks in between; a line break right behind the opening quotes
does not belong to the text. -/

namespace RecordFilter

namespace Toml

/-! ### Writing -/

/-- Whether the character can stand within quotes as it is, other than a line break. -/
def isPlain (c : Char) : Bool :=
  c == '\t' || (32 ≤ c.toNat && c != '\x7f')

/-- The form of a character between double quotes. -/
def escaped (c : Char) : List Char :=
  if c = '"' then ['\\', '"']
  else if c = '\\' then ['\\', '\\']
  else if c = '\x08' then ['\\', 'b']
  else if c = '\t' then ['\\', 't']
  else if c = '\n' then ['\\', 'n']
  else if c = '\x0c' then ['\\', 'f']
  else if c = '\r' then ['\\', 'r']
  else if c.toNat < 32 ∨ c = '\x7f' then
    ['\\', 'u', '0', '0', (hexDigit (c.toNat / 16)).toUpper, (hexDigit (c.toNat % 16)).toUpper]
  else [c]

/-- The form of a text between triple double quotes, behind so many quotes that stand as they
are. Of the quotes in a row every third has an escape, so that none of them close the text. -/
def escapedLines (quotes : Nat) : List Char → List Char
  | [] => []
  | c :: cs =>
    if c = '"' then
      if quotes = 2 then '\\' :: '"' :: escapedLines 0 cs else '"' :: escapedLines (quotes + 1) cs
    else if c = '\n' then c :: escapedLines 0 cs
    else escaped c ++ escapedLines 0 cs

/-- Whether a text contains three quotes in a row. -/
def hasTriple (quote : Char) : List Char → Bool
  | c :: d :: e :: cs =>
    (c == quote && d == quote && e == quote) || hasTriple quote (d :: e :: cs)
  | _ => false

/-- The ways of quoting a text. -/
inductive QuoteStyle where
  /-- Between double quotes, with escapes. -/
  | escaped
  /-- Between single quotes, as it is. -/
  | literal
  /-- Between triple double quotes, with escapes. -/
  | escapedLines
  /-- Between triple single quotes, as it is. -/
  | literalLines
  deriving DecidableEq

namespace QuoteStyle

/-- Whether a text can be quoted in this way with nothing but tabs escaped. -/
def suits (style : QuoteStyle) (cs : List Char) : Bool :=
  cs.all (fun c => isPlain c || c == '\n') &&
    match style with
    | .escaped => !cs.contains '"' && !cs.contains '\\' && !cs.contains '\n'
    | .literal => !cs.contains '\'' && !cs.contains '\n'
    | .escapedLines => !hasTriple '"' cs && !cs.contains '\\'
    | .literalLines => !hasTriple '\'' cs

/-- The ways of quoting, of which the first that suits a text is taken. -/
def byPreference : List QuoteStyle :=
  [.escaped, .literal, .escapedLines, .literalLines]

/-- The way to quote a text. One that needs escapes in any way is put between double quotes. -/
def choose (cs : List Char) : QuoteStyle :=
  (byPreference.find? (·.suits cs)).getD (if cs.contains '\n' then .escapedLines else .escaped)

/-- What stands before and behind a text. -/
def quotes : QuoteStyle → List Char
  | .escaped => ['"']
  | .literal => ['\'']
  | .escapedLines => ['"', '"', '"']
  | .literalLines => ['\'', '\'', '\'']

/-- What stands between the quotes. -/
def content (style : QuoteStyle) (cs : List Char) : List Char :=
  match style with
  | .escaped => cs.flatMap Toml.escaped
  | .escapedLines => Toml.escapedLines 0 cs
  | .literal | .literalLines => cs

end QuoteStyle

/-- A text in quotes. One of several lines starts on a line of its own. -/
def quoted (s : String) : List Char :=
  let cs := s.toList
  let style := QuoteStyle.choose cs
  style.quotes ++ (if cs.contains '\n' then ['\n'] else []) ++ style.content cs ++ style.quotes

/-! ### Reading -/

/-- The character that a one-letter escape stands for. -/
def unescape? (c : Char) : Option Char :=
  if c = '"' ∨ c = '\\' then some c
  else if c = 'b' then some '\x08'
  else if c = 't' then some '\t'
  else if c = 'n' then some '\n'
  else if c = 'f' then some '\x0c'
  else if c = 'r' then some '\r'
  else none

/-- The character with a code in hexadecimal digits. -/
def character? (digits : List Char) : Option Char :=
  (hexCode? digits).bind fun n => if n.isValidChar then some (Char.ofNat n) else none

/-- Puts a character in front of a text that has been read. -/
def prepend (c : Char) (result : Option (List Char × List Char)) :
    Option (List Char × List Char) :=
  result.map fun (cs, rest) => (c :: cs, rest)

/-- Reads a text behind its opening double quote. -/
def readEscaped : List Char → Option (List Char × List Char)
  | [] => none
  | c :: rest =>
    if c = '"' then some ([], rest)
    else if c = '\\' then
      match rest with
      | 'u' :: d₁ :: d₂ :: d₃ :: d₄ :: rest =>
        (character? [d₁, d₂, d₃, d₄]).bind (prepend · (readEscaped rest))
      | 'U' :: d₁ :: d₂ :: d₃ :: d₄ :: d₅ :: d₆ :: d₇ :: d₈ :: rest =>
        (character? [d₁, d₂, d₃, d₄, d₅, d₆, d₇, d₈]).bind (prepend · (readEscaped rest))
      | e :: rest => (unescape? e).bind (prepend · (readEscaped rest))
      | [] => none
    else if isPlain c then prepend c (readEscaped rest)
    else none

/-- Reads a text behind its opening single quote. -/
def readLiteral : List Char → Option (List Char × List Char)
  | [] => none
  | c :: rest =>
    if c = '\'' then some ([], rest)
    else if isPlain c then prepend c (readLiteral rest)
    else none

/-- What is left of the closing quotes of a text over several lines, of which three are found.
Up to two quotes before the last three belong to the text. -/
def closeLines (quote : Char) : List Char → List Char × List Char
  | c :: d :: rest =>
    if c = quote then if d = quote then ([c, d], rest) else ([c], d :: rest)
    else ([], c :: d :: rest)
  | [c] => if c = quote then ([c], []) else ([], [c])
  | [] => ([], [])

/-- Whether a line ends here, but for blanks. -/
def endsLine : List Char → Bool
  | [] => false
  | '\r' :: '\n' :: _ => true
  | c :: rest => c = '\n' || ((c = ' ' || c = '\t') && endsLine rest)

/-- Reads a text behind its opening triple double quotes. A backslash at the end of a line takes
blanks and line breaks up to the next other character out of the text. -/
def readEscapedLines (skipping : Bool) : List Char → Option (List Char × List Char)
  | [] => none
  | c :: rest =>
    if c = '\r' then
      match rest with
      | '\n' :: rest =>
        if skipping then readEscapedLines true rest else prepend '\n' (readEscapedLines false rest)
      | _ => none
    else if skipping && (c == ' ' || c == '\t' || c == '\n') then readEscapedLines true rest
    else if c = '"' then
      match rest with
      | '"' :: '"' :: rest => some (closeLines '"' rest)
      | _ => prepend c (readEscapedLines false rest)
    else if c = '\\' then
      match rest with
      | 'u' :: d₁ :: d₂ :: d₃ :: d₄ :: rest =>
        (character? [d₁, d₂, d₃, d₄]).bind (prepend · (readEscapedLines false rest))
      | 'U' :: d₁ :: d₂ :: d₃ :: d₄ :: d₅ :: d₆ :: d₇ :: d₈ :: rest =>
        (character? [d₁, d₂, d₃, d₄, d₅, d₆, d₇, d₈]).bind (prepend · (readEscapedLines false rest))
      | e :: after =>
        match unescape? e with
        | some d => prepend d (readEscapedLines false after)
        | none => if endsLine (e :: after) then readEscapedLines true after else none
      | [] => none
    else if isPlain c || c == '\n' then prepend c (readEscapedLines false rest)
    else none

/-- Reads a text behind its opening triple single quotes. -/
def readLiteralLines : List Char → Option (List Char × List Char)
  | [] => none
  | c :: rest =>
    if c = '\r' then
      match rest with
      | '\n' :: rest => prepend '\n' (readLiteralLines rest)
      | _ => none
    else if c = '\'' then
      match rest with
      | '\'' :: '\'' :: rest => some (closeLines '\'' rest)
      | _ => prepend c (readLiteralLines rest)
    else if isPlain c || c == '\n' then prepend c (readLiteralLines rest)
    else none

/-- The text without a line break in front. -/
def dropBreak : List Char → List Char
  | '\n' :: rest => rest
  | '\r' :: '\n' :: rest => rest
  | cs => cs

/-- Reads a quoted text, if one stands here. -/
def readQuoted : List Char → Option (List Char × List Char)
  | '"' :: '"' :: '"' :: rest => readEscapedLines false (dropBreak rest)
  | '\'' :: '\'' :: '\'' :: rest => readLiteralLines (dropBreak rest)
  | '"' :: rest => readEscaped rest
  | '\'' :: rest => readLiteral rest
  | _ => none

end Toml

end RecordFilter
