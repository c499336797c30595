/-! # Text on terminals

The commands to a terminal that a text can hold. -/

namespace RecordFilter

/-! ## Terminal styles

Colors and weights of text on a terminal, as escape sequences around the text. -/

/-- How text is shown. -/
inductive Style where
  | bold
  | dimmed
  | red
  | green
  | yellow
  deriving DecidableEq

namespace Style

/-- The escape sequence with the given parameter. -/
def escape (parameter : List Char) : List Char :=
  '\x1b' :: '[' :: parameter ++ ['m']

/-- The parameter that turns the style on. -/
def opening : Style → List Char
  | .bold => ['1']
  | .dimmed => ['2']
  | .red => ['3', '1']
  | .green => ['3', '2']
  | .yellow => ['3', '3']

/-- The parameter that turns the style off. Colors fall back to the default color, and weights
to plain text. -/
def closing : Style → List Char
  | .bold | .dimmed => ['0']
  | .red | .green | .yellow => ['3', '9']

/-- A text in the style, if styles are shown at all. -/
def paint (s : Style) (shown : Bool) (cs : List Char) : List Char :=
  if shown then escape s.opening ++ cs ++ escape s.closing else cs

end Style

/-! ## Visible text

To a terminal, a part of a text is commands: control characters, and escape sequences, which the
escape character begins. Where a text is not shown on a terminal its commands are left out. -/

/-- How far an escape sequence has come. -/
inductive EscapeStage where
  /-- Outside of sequences. -/
  | outside
  /-- Behind the escape character. -/
  | introduced
  /-- In a sequence of marks, which the next digit or letter ends. -/
  | marked
  /-- In a control sequence, which a letter ends. -/
  | control
  /-- In a command to the operating system, which a bell ends. -/
  | command
  /-- In a message, which the byte 9C ends. -/
  | message
  /-- At the front of a device control string. -/
  | device
  /-- In the parameters of a device control string, which become a message. -/
  | deviceParameters
  /-- In the marks of a device control string, which become a message. -/
  | deviceMarks
  deriving DecidableEq

/-- Whether the character is white space that moves the cursor. -/
def isCursorMove (c : Char) : Bool :=
  c == '\t' || c == '\n' || c == '\x0c' || c == '\r'

/-- Whether the character can be seen outside of escape sequences. -/
def isVisible (c : Char) : Bool :=
  (32 ≤ c.toNat && c != '\x7f') || isCursorMove c

/-- Whether the byte 9C is among the bytes of a character. -/
def hasTerminator (c : Char) : Bool :=
  (String.utf8EncodeChar c).contains 0x9C

namespace EscapeStage

/-- Whether a character can be seen at this stage. -/
def shows (s : EscapeStage) (c : Char) : Bool :=
  match s with
  | .outside => isVisible c
  | .introduced | .marked | .control => isCursorMove c
  | .command | .message | .device | .deviceParameters | .deviceMarks => false

/-- The stage behind a character that belongs to a sequence. Marks are the codes from 20 to 2F,
digits and parameters those from 30 to 3F. -/
def advance (s : EscapeStage) (c : Char) : EscapeStage :=
  match s with
  | .outside => .outside
  | .introduced =>
    if c.toNat < 0x30 then .marked
    else if c = '[' then .control
    else if c = ']' then .command
    else if c = 'P' then .device
    else if c = 'X' ∨ c = '^' ∨ c = '_' then .message
    else .outside
  | .marked => if c.toNat < 0x30 then .marked else .outside
  | .control => if c.toNat < 0x40 then .control else .outside
  | .command => .command
  | .message => .message
  | .device =>
    if c.toNat < 0x30 then .deviceMarks
    else if c.toNat < 0x40 then .deviceParameters
    else .message
  | .deviceParameters =>
    if c.toNat < 0x30 then .deviceMarks
    else if c.toNat < 0x3C then .deviceParameters
    else .message
  | .deviceMarks => if c.toNat < 0x30 then .deviceMarks else .message

/-- The stage behind a character that cannot be seen. The escape character begins a sequence at
every stage, and the characters for cancelling end one. -/
def after (s : EscapeStage) (c : Char) : EscapeStage :=
  if c = '\x1b' then .introduced
  else if c = '\x18' ∨ c = '\x1a' then .outside
  else if c.toNat < 0x20 ∨ c = '\x7f' then
    if s = .command ∧ c = '\x07' then .outside else s
  else if c.toNat < 0x80 then s.advance c
  else if s = .message ∧ hasTerminator c then .outside
  else s

end EscapeStage

/-- The visible part of a text from a stage on. Once a character is seen, those behind it are
seen as well, up to the next one that is not visible outside of sequences: there a sequence that
white space has interrupted goes on, unless a character beyond ASCII has ended it. -/
def visibleFrom (s : EscapeStage) (interrupted : Bool) : List Char → List Char
  | [] => []
  | c :: cs =>
    if (interrupted && isVisible c) || s.shows c then
      c :: visibleFrom (if c.toNat < 0x80 then s else .outside) true cs
    else visibleFrom (s.after c) false cs

/-- The visible part of a text. -/
def visible (cs : List Char) : List Char :=
  visibleFrom .outside false cs

end RecordFilter
