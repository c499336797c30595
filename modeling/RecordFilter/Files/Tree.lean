import RecordFilter.Files

/-! # File trees

Directories and files in memory. A path is followed step by step from the working directory, or
from the root if it is absolute; each step but the last must lead to a directory.

A change of the tree can fail for two reasons. Either the paths do not allow it, or it meets a fault
of the disk. Directories are made and files are moved as a whole or not at all, but a text is
written to a file that has first been emptied, so that a fault can leave the beginning of it there,
or nothing. A break inside of a character, behind which the file holds no text, is left out. -/

namespace RecordFilter

/-- The names of the directories from the root down to a place, and of the place itself. -/
abbrev Location := List String

/-- What stands at a location. -/
inductive Node where
  | file (text : String)
  | directory
  deriving DecidableEq

/-- What keeps a change from being made although the paths allow it, such as a full disk. -/
structure FileFault where
  reason : FileError
  /-- How many characters of a text have been written, if its file has been emptied for it. -/
  written : Option Nat
  deriving DecidableEq

/-- Files and directories below a root, the directory at which relative paths start, and the faults
that the changes to come meet, with one entry for each of them. Behind the last entry there are no
faults. -/
structure FileTree where
  node? : Location → Option Node
  workingDirectory : Location
  faults : List (Option FileFault)

/-- Where a path leads. A vacant place lies in a directory, which has no entry of its name. -/
inductive Place where
  | file (location : Location) (text : String)
  | directory (location : Location)
  | vacant (location : Location)
  deriving DecidableEq

namespace FileTree

/-- The tree of an empty working directory, on a disk without faults. -/
def empty : FileTree :=
  ⟨fun _ => none, ["work"], []⟩

/-- Puts a node at a location, in place of the one that may stand there. -/
def set (t : FileTree) (location : Location) (node : Option Node) : FileTree :=
  { t with node? := fun other => if other = location then node else t.node? other }

/-! ### Following paths -/

/-- The largest size of a file name in bytes. -/
def maxNameSize : Nat := 255

/-- The largest size of a path in bytes. -/
def maxPathSize : Nat := 4095

/-- Where the steps lead from a directory. -/
def walk (t : FileTree) (start : Location) : List String → Except FileError Place
  | [] => .ok (.directory start)
  | name :: rest =>
    if name = "." then t.walk start rest
    else if name = ".." then t.walk start.dropLast rest
    else if maxNameSize < name.utf8ByteSize then .error .nameTooLong
    else
      let location := start ++ [name]
      match t.node? location with
      | some .directory => t.walk location rest
      | some (.file text) =>
        if rest.isEmpty then .ok (.file location text) else .error .notADirectory
      | none => if rest.isEmpty then .ok (.vacant location) else .error .notFound

/-- Where the given steps of a path lead from the directory at which it starts. -/
def follow (t : FileTree) (p : Path) (steps : List String) : Except FileError Place :=
  if p.text.toList.contains '\x00' then .error .zeroInName
  else if p.text.isEmpty then .error .notFound
  else if maxPathSize < p.text.utf8ByteSize then .error .nameTooLong
  else t.walk (if p.isAbsolute then [] else t.workingDirectory) steps

/-- Where a path leads. -/
def place (t : FileTree) (p : Path) : Except FileError Place :=
  t.follow p p.steps

/-- Where a path leads that is to name something. -/
def entry (t : FileTree) (p : Path) : Except FileError Place :=
  match t.place p with
  | .ok (.vacant _) => .error .notFound
  | .ok (.file location text) =>
    if p.endsInSlash then .error .notADirectory else .ok (.file location text)
  | result => result

/-! ### Operations -/

/-- What a path names, if anything. -/
def kind? (t : FileTree) (p : Path) : Option FileKind :=
  match t.entry p with
  | .ok (.file _ _) => some .file
  | .ok (.directory _) => some .directory
  | _ => none

/-- The contents of a file. -/
def readText (t : FileTree) (p : Path) : Except FileError String :=
  match t.entry p with
  | .ok (.file _ text) => .ok text
  | .ok (.directory _) => .error .isADirectory
  | .ok (.vacant _) => .error .notFound
  | .error e => .error e

/-- Why a file cannot be written at a path that ends in a slash. Such a path names a directory,
whatever its last step is, as long as the steps before it lead to a directory. -/
def slashFault (t : FileTree) (p : Path) : FileError :=
  match t.follow p p.steps.dropLast with
  | .ok (.directory _) => .isADirectory
  | .ok (.file _ _) => .notADirectory
  | .ok (.vacant _) => .notFound
  | .error e => e

/-- The tree in which a file has new contents, which is made if it is not there. -/
def writeText (t : FileTree) (p : Path) (text : String) : Except FileError FileTree :=
  if p.endsInSlash then .error (t.slashFault p)
  else
    match t.place p with
    | .ok (.file location _) | .ok (.vacant location) => .ok (t.set location (some (.file text)))
    | .ok (.directory _) => .error .isADirectory
    | .error e => .error e

/-- The tree with a new directory. -/
def makeDirectory (t : FileTree) (p : Path) : Except FileError FileTree :=
  match t.place p with
  | .ok (.vacant location) => .ok (t.set location (some .directory))
  | .ok _ => .error .alreadyExists
  | .error e => .error e

/-- Whether a path ends in a step that stays in a directory or leaves it. -/
def endsInDots (p : Path) : Bool :=
  p.steps.getLast?.all fun name => name = "." || name = ".."

/-- The tree in which a file has another location. -/
def moved (t : FileTree) (source : Location) (text : String) (target : Location) : FileTree :=
  (t.set source none).set target (some (.file text))

/-- The tree in which a file has another path. -/
def moveFile (t : FileTree) (source target : Path) : Except FileError FileTree :=
  match t.entry source with
  | .error e => .error e
  | .ok (.file old text) =>
    match t.place target with
    | .error e => .error e
    | .ok (.directory _) =>
      .error (if endsInDots target then .busy
        else if target.endsInSlash then .notADirectory else .isADirectory)
    | .ok (.file new _) | .ok (.vacant new) =>
      if target.endsInSlash then .error .notADirectory else .ok (t.moved old text new)
  | .ok _ => .error .isADirectory

/-! ### Faults -/

/-- The tree for the changes behind the next one. -/
def next (t : FileTree) : FileTree :=
  { t with faults := t.faults.tail }

/-- Makes a change, unless it meets a fault. Given how much of a text has been written by then,
`part` is what has been done of the change. -/
def update (change : FileTree → Except FileError FileTree)
    (part : Nat → FileTree → Except FileError FileTree) :
    StateM FileTree (Except FileError Unit) := fun t =>
  match t.faults.head?.join with
  | none =>
    match change t.next with
    | .ok t' => (.ok (), t')
    | .error reason => (.error reason, t.next)
  | some ⟨reason, none⟩ => (.error reason, t.next)
  | some ⟨reason, some size⟩ =>
    match part size t.next with
    | .ok t' => (.error reason, t')
    | .error _ => (.error reason, t.next)

/-- The beginning of a text, of at most the given size. -/
def beginning (size : Nat) (text : String) : String :=
  String.ofList (text.toList.take size)

instance : Files (StateM FileTree) where
  kind? p := fun t => (t.kind? p, t)
  readText p := fun t => (t.readText p, t)
  writeText p text :=
    update (·.writeText p text) fun size t => t.writeText p (beginning size text)
  makeDirectory p := update (·.makeDirectory p) fun _ => .ok
  moveFile source target := update (·.moveFile source target) fun _ => .ok

end FileTree

end RecordFilter
