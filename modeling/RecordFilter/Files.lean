import RecordFilter.Text.Basic

/-! # Files

Names of files, and what is done with files. -/

namespace RecordFilter

/-! ## Paths

Names of files and directories: segments with slashes between them. Empty segments, and segments
`.` anywhere but in front, do not change what a path names. -/

/-- The name of a file or a directory, as written. -/
structure Path where
  text : String
  deriving DecidableEq

namespace Path

/-! ### Segments -/

/-- The parts of a text between its slashes, of which there is at least one. -/
def split (cs : List Char) : List Char × List (List Char) :=
  parts '/' cs

/-- The text with the given parts between its slashes. -/
def joined (first : List Char) (others : List (List Char)) : List Char :=
  first ++ others.flatMap ('/' :: ·)

/-- Whether a segment behind a slash names nothing. -/
def isBlankSegment (segment : List Char) : Bool :=
  segment = [] || segment = ['.']

/-- Segments without those at the end that name nothing. -/
def trimmed (segments : List (List Char)) : List (List Char) :=
  (segments.reverse.dropWhile isBlankSegment).reverse

/-- Whether the path starts at the root. -/
def isAbsolute (p : Path) : Bool :=
  p.text.toList.head? = some '/'

/-- Whether the path ends in a slash, so that it can only name a directory. -/
def endsInSlash (p : Path) : Bool :=
  p.text.toList.getLast? = some '/'

/-- The steps from one directory to the next that the path describes. -/
def steps (p : Path) : List String :=
  (properParts '/' p.text.toList).map String.ofList

/-! ### Related paths -/

/-- A path below this one; an absolute path stays as it is. -/
def join (p : Path) (name : String) : Path :=
  if isAbsolute ⟨name⟩ then ⟨name⟩
  else if p.text.isEmpty || p.endsInSlash then ⟨p.text ++ name⟩
  else ⟨p.text ++ "/" ++ name⟩

/-- The path of the directory in which this path names an entry. -/
def parent? (p : Path) : Option Path :=
  let (first, others) := split p.text.toList
  match trimmed others with
  | [] => if first.isEmpty then none else some ⟨""⟩
  | named =>
    match joined first (trimmed named.dropLast) with
    | [] => some ⟨"/"⟩
    | parent => some ⟨String.ofList parent⟩

/-- The part of a file name before its last dot. A name that starts with its only dot has no
extension to be cut off. -/
def stem (name : List Char) : List Char :=
  match name.reverse.dropWhile (· ≠ '.') with
  | [] | ['.'] => name
  | _ :: stem => stem.reverse

/-- A file name with another extension. -/
def renamed (name extension : List Char) : List Char :=
  stem name ++ '.' :: extension

/-- A file name at the end of a path with another extension. Two dots in front are left alone:
without the extension they name the directory above, which has none. -/
def renamedLast (name extension : List Char) : List Char :=
  if stem name = ['.'] then ['.', '.'] else renamed name extension

/-- The path with another extension of its file name, if it has a file name. -/
def withExtension (p : Path) (extension : String) : Path :=
  let (first, others) := split p.text.toList
  let named := trimmed others
  let rename := if named.length = others.length then renamedLast else renamed
  match named.getLast? with
  | some name =>
    if name = ['.', '.'] then p
    else ⟨String.ofList (joined first (named.dropLast ++ [rename name extension.toList]))⟩
  | none =>
    if first = [] || first = ['.'] || first = ['.', '.'] then p
    else ⟨String.ofList (rename first extension.toList)⟩

end Path

/-! ## Files

The operations on files that the program needs, for any place that can hold files: a disk, or a
tree in memory. An operation either succeeds or gives a reason. Then directories and files are as
they were before, but for a file that was to be written: it may have lost its text by then, or have
a part of the new one. -/

/-- Why an operation on files fails. -/
inductive FileError where
  | notFound
  | alreadyExists
  | notADirectory
  | isADirectory
  | busy
  | nameTooLong
  | zeroInName
  | other (message : String)
  deriving DecidableEq

/-- The message shown for the error. -/
def FileError.message : FileError → String
  | .notFound => "No such file or directory (os error 2)"
  | .alreadyExists => "File exists (os error 17)"
  | .notADirectory => "Not a directory (os error 20)"
  | .isADirectory => "Is a directory (os error 21)"
  | .busy => "Device or resource busy (os error 16)"
  | .nameTooLong => "File name too long (os error 36)"
  | .zeroInName => "file name contained an unexpected NUL byte"
  | .other message => message

/-- What a path can name. -/
inductive FileKind where
  | file
  | directory
  deriving DecidableEq

/-- Computations that can use files. -/
class Files (m : Type → Type) where
  /-- What the path names, if anything. -/
  kind? : Path → m (Option FileKind)
  /-- The contents of a file. -/
  readText : Path → m (Except FileError String)
  /-- Gives a file new contents. The file is made if it is not there. -/
  writeText : Path → String → m (Except FileError Unit)
  /-- Makes a directory in one that is there. -/
  makeDirectory : Path → m (Except FileError Unit)
  /-- Gives a file another path, and drops the file that was there. -/
  moveFile (source target : Path) : m (Except FileError Unit)

namespace Files

/-- What can use files can use them in a larger setting. -/
instance {m n : Type → Type} [MonadLift m n] [Files m] : Files n where
  kind? p := (monadLift (kind? p : m _) : n _)
  readText p := (monadLift (readText p : m _) : n _)
  writeText p text := (monadLift (writeText p text : m _) : n _)
  makeDirectory p := (monadLift (makeDirectory p : m _) : n _)
  moveFile source target := (monadLift (moveFile source target : m _) : n _)

variable {m : Type → Type} [Monad m] [Files m]

/-- Whether the path names anything. -/
def isPresent (p : Path) : m Bool := do
  return (← kind? p).isSome

/-- Makes a directory unless it is there. -/
def ensureDirectory (p : Path) : m (Except FileError Unit) := do
  match ← makeDirectory p with
  | .ok () => return .ok ()
  | .error e => return if (← kind? p) = some .directory then .ok () else .error e

/-- Makes a directory and those that it lies in, up to the given number of them, unless they are
there. The empty path stands for the working directory. -/
def ensurePathWithin (depth : Nat) (p : Path) : m (Except FileError Unit) := do
  if p.text.isEmpty then return .ok ()
  match ← ensureDirectory p with
  | .error .notFound =>
    match depth, p.parent? with
    | depth + 1, some parent =>
      match ← ensurePathWithin depth parent with
      | .ok () => ensureDirectory p
      | .error e => return .error e
    | _, _ => return .error .notFound
  | result => return result

/-- Makes a directory and all those that it lies in, unless they are there. -/
def ensurePath (p : Path) : m (Except FileError Unit) :=
  ensurePathWithin p.steps.length p

end Files

end RecordFilter
