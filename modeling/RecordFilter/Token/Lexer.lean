import RecordFilter.Text.CharacterClass
import RecordFilter.Token

/-! # Reading tokens

A text is read from left to right with a `Cursor`. One step skips white space and takes the
longest token that stands there. A step that fails leaves the cursor where reading can go on:
behind a lone minus sign, behind an unclosed quotation (which takes the rest of the text with
it), and in front of a character that begins no token, which therefore fails again. -/

namespace RecordFilter

/-- The length of a text in UTF-8, in bytes. -/
def byteLength (cs : List Char) : Nat :=
  cs.foldr (fun c size => c.utf8Size + size) 0

@[simp] theorem byteLength_nil : byteLength [] = 0 := rfl

@[simp] theorem byteLength_cons (c : Char) (cs : List Char) :
    byteLength (c :: cs) = c.utf8Size + byteLength cs := rfl

@[simp] theorem byteLength_append (as bs : List Char) :
    byteLength (as ++ bs) = byteLength as + byteLength bs := by
  induction as with
  | nil => simp
  | cons c as ih => simp [ih, Nat.add_assoc]

/-- Only the empty text has no bytes. -/
theorem eq_nil_of_byteLength_eq_zero {cs : List Char} (h : byteLength cs = 0) : cs = [] := by
  cases cs with
  | nil => rfl
  | cons c cs =>
    have hc := c.utf8Size_pos
    rw [byteLength_cons] at h
    omega

theorem byteLength_toList (s : String) : byteLength s.toList = s.utf8ByteSize := by
  have h : ∀ cs, byteLength cs = (String.ofList cs).utf8ByteSize := by
    intro cs
    induction cs with
    | nil => rfl
    | cons c cs ih =>
      rw [byteLength_cons, String.ofList_cons, String.utf8ByteSize_append,
        String.utf8ByteSize_singleton, ih]
  rw [h, String.ofList_toList]

/-- Whether the character may begin a word. -/
def beginsWord (c : Char) : Bool :=
  isAlphabetic c || c == '_'

/-- Whether the character may go on with a word. -/
def continuesWord (c : Char) : Bool :=
  isAlphabetic c || isNumeric c || c == '_'

/-! ### Words -/

/-- The keywords of the language, in lowercase. -/
def keywords : List (List Char × TokenKind) := [
  (['a', 'n', 'd'], .connective .and), (['o', 'r'], .connective .or),
  (['e', 'q'], .comparator .eq), (['n', 'e'], .comparator .ne),
  (['g', 't'], .comparator .gt), (['l', 't'], .comparator .lt)]

/-- A word is a keyword in any ASCII case, or else it names a field. -/
def wordKind (word : List Char) : TokenKind :=
  match keywords.find? (·.1 == word.map Char.toLower) with
  | some (_, kind) => kind
  | none => .identifier

/-! ### Quoted literals -/

/-- Whether the text has a digit for every `d` of the shape and the shape's own character
elsewhere. -/
def hasShape : List Char → List Char → Bool
  | [], [] => true
  | c :: cs, s :: shape => (if s == 'd' then c.isDigit else c == s) && hasShape cs shape
  | _, _ => false

/-- The shape of a quoted literal with the given content. -/
def quotedShape (content : List Char) : LiteralShape :=
  if hasShape content ['d', 'd', 'd', 'd', '-', 'd', 'd', '-', 'd', 'd'] then .date
  else if hasShape content ['d', 'd', ':', 'd', 'd', ':', 'd', 'd'] then .time
  else .text

/-! ### One token -/

/-- What stands at the front of a text that begins with no white space. -/
inductive Front where
  /-- A token and the text behind it. -/
  | token (kind : TokenKind) (lexeme after : List Char)
  /-- Characters that are no token, and the text with which reading may go on. -/
  | fault (text after : List Char)
  /-- The end of the text. -/
  | done

/-- Reads a quoted literal whose opening quote stands before `cs`. -/
def frontQuoted (cs : List Char) : Front :=
  let content := cs.takeWhile (· != '\'')
  match cs.dropWhile (· != '\'') with
  | [] => .fault ('\'' :: cs) []
  | quote :: after => .token (.literal (quotedShape content)) ('\'' :: content ++ [quote]) after

/-- Reads what stands at the front of a text. -/
def front : List Char → Front
  | [] => .done
  | c :: cs =>
    if c = '(' then .token .leftParen [c] cs
    else if c = ')' then .token .rightParen [c] cs
    else if c = '\'' then frontQuoted cs
    else if c = '-' then
      match cs.takeWhile Char.isDigit with
      | [] => .fault [c] cs
      | digits => .token (.literal .decimal) (c :: digits) (cs.dropWhile Char.isDigit)
    else if c.isDigit then
      .token (.literal .decimal) (c :: cs.takeWhile Char.isDigit) (cs.dropWhile Char.isDigit)
    else if beginsWord c then
      let word := c :: cs.takeWhile continuesWord
      .token (wordKind word) word (cs.dropWhile continuesWord)
    else .fault [c] (c :: cs)

/-! ### The cursor -/

/-- The text not read yet and the byte offset at which it begins. -/
structure Cursor where
  rest : List Char
  offset : Nat

namespace Cursor

/-- The cursor in front of a text. -/
def ofString (s : String) : Cursor :=
  ⟨s.toList, 0⟩

/-- Reads the next token, or the end of the input for ever once nothing is left. -/
def next (s : Cursor) : Except FilterError Token × Cursor :=
  let rest := s.rest.dropWhile isBlank
  let start := s.offset + byteLength (s.rest.takeWhile isBlank)
  match front rest with
  | .token kind lexeme after =>
    (.ok ⟨kind, String.ofList lexeme, start⟩, ⟨after, start + byteLength lexeme⟩)
  | .fault text after =>
    (.error (.unrecognized (String.ofList text) start),
      ⟨after, start + (byteLength rest - byteLength after)⟩)
  | .done => (.ok (.ending start), ⟨[], start⟩)

end Cursor

/-! ### Every step that yields a token shortens the text -/

theorem frontQuoted_shorter {cs lexeme after : List Char} {kind : TokenKind}
    (h : frontQuoted cs = .token kind lexeme after) : after.length < cs.length := by
  have hle := (List.dropWhile_sublist (l := cs) (· != '\'')).length_le
  unfold frontQuoted at h
  split at h
  · cases h
  · next hd =>
    cases h
    rw [hd] at hle
    exact hle

theorem front_shorter {cs lexeme after : List Char} {kind : TokenKind}
    (h : front cs = .token kind lexeme after) : after.length < cs.length := by
  cases cs with
  | nil => cases h
  | cons c cs =>
    have hd := (List.dropWhile_sublist (l := cs) Char.isDigit).length_le
    have hw := (List.dropWhile_sublist (l := cs) continuesWord).length_le
    simp only [front] at h
    split at h
    · cases h
      exact Nat.lt_succ_self _
    split at h
    · cases h
      exact Nat.lt_succ_self _
    split at h
    · exact Nat.lt_succ_of_lt (frontQuoted_shorter h)
    split at h
    · split at h
      · cases h
      · cases h
        exact Nat.lt_succ_of_le hd
    split at h
    · cases h
      exact Nat.lt_succ_of_le hd
    split at h
    · cases h
      exact Nat.lt_succ_of_le hw
    · cases h

theorem Cursor.next_shorter {s s' : Cursor} {t : Token} (h : s.next = (.ok t, s'))
    (ht : t.kind ≠ .endOfInput) : s'.rest.length < s.rest.length := by
  have hle := (List.dropWhile_sublist (l := s.rest) isBlank).length_le
  unfold Cursor.next at h
  simp only at h
  split at h
  · next hf =>
    cases h
    exact Nat.lt_of_lt_of_le (front_shorter hf) hle
  · cases h
  · cases h
    exact absurd rfl ht

/-! ### The whole text -/

/-- The tokens that remain, up to and including the end of the input. -/
def Cursor.tokens (s : Cursor) : Except FilterError (List Token) :=
  match _h : s.next with
  | (.error e, _) => .error e
  | (.ok t, s') =>
    if _ht : t.kind = .endOfInput then .ok [t]
    else s'.tokens.map (t :: ·)
termination_by s.rest.length
decreasing_by exact Cursor.next_shorter _h _ht

/-- The tokens of a text, the end of the input last. The first characters that are no token
stop the reading. -/
def tokenize (s : String) : Except FilterError (List Token) :=
  (Cursor.ofString s).tokens

end RecordFilter
