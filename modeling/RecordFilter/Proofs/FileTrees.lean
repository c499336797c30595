import Mathlib.Data.List.Basic
import Mathlib.Data.Set.Basic
import Mathlib.Logic.Relation
import RecordFilter.Files.Tree

/-! # Operations on a file tree

The steps of a path alone decide to which location it leads, if it leads anywhere
(`location_of_place`): `t.destination p`.  It leads there as long as the directories on its way
stay.  `t.Names p l` says that the path leads to a location at which a file stands or could be put,
and no operation of the program touches a directory that is there.  So a path still names its
location after any of them, with the file that now stands there (`Names.place_eq`).

Each operation is told by what it does when it succeeds: it puts a file or a directory at the
location that its path names, or moves a file from one location to another.  When it fails, it has
changed nothing, or it was to write a text and has written the beginning of it (`Changed`).  Which
of these a run meets is up to the faults of the tree, of which each change takes the first.

Making directories leaves every node as it is (`Builds`), and so does making all the directories of
a path, which adds none but those of the path (`builds_ensurePath`), whatever faults it meets.  So
what is stored in the directory of a path either finds the directory there or leaves every file as
it is (`run_inDirectory`). -/

namespace RecordFilter

namespace FileTree

/-! ### What stays -/

/-- Directories stay directories, relative paths start at the same place, and no faults are added to
those that were to come. -/
structure KeepsDirectories (t t' : FileTree) : Prop where
  directory : ∀ l, t.node? l = some .directory → t'.node? l = some .directory
  start : t'.workingDirectory = t.workingDirectory
  faults : t'.faults <:+ t.faults

/-- Whatever stands in the tree stays as it is, and only directories are added, at some of the
given locations. -/
structure Builds (t : FileTree) (places : Set Location) (t' : FileTree) : Prop where
  node : ∀ l, t'.node? l = t.node? l ∨
    l ∈ places ∧ t.node? l = none ∧ t'.node? l = some .directory
  start : t'.workingDirectory = t.workingDirectory
  faults : t'.faults <:+ t.faults

/-- No change to come meets a fault. -/
def Faultless (t : FileTree) : Prop :=
  ∀ f ∈ t.faults, f = none

/-- None of the changes that lead from the first tree to the second one has met a fault that leaves
a part of a text written. -/
def Unbroken (t t' : FileTree) : Prop :=
  ∃ met, t.faults = met ++ t'.faults ∧ ∀ fault, some fault ∈ met → fault.written = none

theorem Faultless.of_suffix {t t' : FileTree} (h : t.Faultless) (hsub : t'.faults <:+ t.faults) :
    t'.Faultless :=
  fun f hf => h f (hsub.subset hf)

theorem Faultless.ne_cons {t : FileTree} (h : t.Faultless) (fault : FileFault)
    (rest : List (Option FileFault)) : t.faults ≠ some fault :: rest := by
  intro hfaults
  cases h (some fault) (hfaults ▸ List.mem_cons_self)

theorem Unbroken.split {t t₁ t₂ : FileTree} (h : t.Unbroken t₂) (h₁ : t₁.faults <:+ t.faults)
    (h₂ : t₂.faults <:+ t₁.faults) : t.Unbroken t₁ ∧ t₁.Unbroken t₂ := by
  obtain ⟨met, hmet, hnone⟩ := h
  obtain ⟨before, hbefore⟩ := h₁
  obtain ⟨behind, hbehind⟩ := h₂
  obtain rfl : before ++ behind = met := by
    refine List.append_cancel_right (?_ : _ ++ t₂.faults = _ ++ t₂.faults)
    rw [List.append_assoc, hbehind, hbefore, hmet]
  exact ⟨⟨before, hbefore.symm, fun fault hf => hnone fault (List.mem_append_left _ hf)⟩,
    ⟨behind, hbehind.symm, fun fault hf => hnone fault (List.mem_append_right _ hf)⟩⟩

theorem not_unbroken_of_written {t t' : FileTree} {fault : FileFault} {size : Nat}
    (hmet : t.faults = some fault :: t'.faults) (written : fault.written = some size) :
    ¬ t.Unbroken t' := by
  rintro ⟨met, hfaults, hnone⟩
  obtain rfl : [some fault] = met := List.append_cancel_right (hmet.symm.trans hfaults)
  rw [hnone fault List.mem_cons_self] at written
  cases written

/-- What a disk says that has no space left. -/
def noSpace : FileError :=
  .other "No space left on device (os error 28)"

/-- An empty disk that is full for one change, behind the given number of others.  A text that is
being written breaks off at the given size. -/
def fullDisk (changes size : Nat) : FileTree :=
  ⟨empty.node?, empty.workingDirectory,
    List.replicate changes none ++ [some ⟨noSpace, some size⟩]⟩

theorem KeepsDirectories.trans {t₁ t₂ t₃ : FileTree} (h : t₁.KeepsDirectories t₂)
    (h' : t₂.KeepsDirectories t₃) : t₁.KeepsDirectories t₃ :=
  ⟨fun l hl => h'.directory l (h.directory l hl), h'.start.trans h.start, h'.faults.trans h.faults⟩

section builds
variable {t t₁ t₂ : FileTree} {places : Set Location} {l : Location}

theorem Builds.refl (t : FileTree) (places : Set Location) : t.Builds places t :=
  ⟨fun _ => .inl rfl, rfl, List.suffix_rfl⟩

theorem builds_next (t : FileTree) (places : Set Location) : t.Builds places t.next :=
  ⟨fun _ => .inl rfl, rfl, List.tail_suffix _⟩

theorem Builds.node_eq (h : t.Builds places t₁) {n : Node} (hl : t.node? l = some n) :
    t₁.node? l = some n := by
  obtain hsame | ⟨-, hnone, -⟩ := h.node l
  · rw [hsame, hl]
  · rw [hnone] at hl
    cases hl

theorem Builds.file_iff (h : t.Builds places t₁) (l : Location) (text : String) :
    t₁.node? l = some (.file text) ↔ t.node? l = some (.file text) := by
  refine ⟨fun hl => ?_, h.node_eq⟩
  obtain hsame | ⟨-, -, hdir⟩ := h.node l
  · rw [← hsame, hl]
  · rw [hdir] at hl
    cases hl

theorem Builds.trans (h : t.Builds places t₁) (h' : t₁.Builds places t₂) :
    t.Builds places t₂ where
  node l := by
    obtain hsame | ⟨hl, hnone, hdir⟩ := h.node l
    · rw [← hsame]
      exact h'.node l
    · exact .inr ⟨hl, hnone, h'.node_eq hdir⟩
  start := h'.start.trans h.start
  faults := h'.faults.trans h.faults

theorem Builds.mono {more : Set Location} (h : t.Builds places t₁) (hsub : places ⊆ more) :
    t.Builds more t₁ where
  node l := (h.node l).imp_right fun ⟨hl, hnode⟩ => ⟨hsub hl, hnode⟩
  start := h.start
  faults := h.faults

theorem Builds.keepsDirectories (h : t.Builds places t₁) : t.KeepsDirectories t₁ :=
  ⟨fun _ => h.node_eq, h.start, h.faults⟩

end builds

section set
variable (t : FileTree) {l : Location}

theorem node?_set_self (n : Option Node) : (t.set l n).node? l = n :=
  if_pos rfl

theorem node?_set_of_ne {l' : Location} (h : l' ≠ l) (n : Option Node) :
    (t.set l n).node? l' = t.node? l' :=
  if_neg h

theorem keepsDirectories_set (h : t.node? l ≠ some .directory) (n : Option Node) :
    t.KeepsDirectories (t.set l n) where
  directory l' hl' := by
    have hne : l' ≠ l := by
      rintro rfl
      exact h hl'
    rw [node?_set_of_ne t hne, hl']
  start := rfl
  faults := List.suffix_rfl

theorem builds_set (h : t.node? l = none) : t.Builds {l} (t.set l (some .directory)) where
  node l' := by
    by_cases hl : l' = l
    · subst hl
      exact .inr ⟨rfl, h, node?_set_self _ _⟩
    · exact .inl (node?_set_of_ne t hl _)
  start := rfl
  faults := List.suffix_rfl

theorem node?_moved (old new : Location) (text : String) :
    (t.moved old text new).node? new = some (.file text) :=
  node?_set_self _ _

theorem keepsDirectories_moved {old new : Location} (hold : t.node? old ≠ some .directory)
    (hnew : t.node? new ≠ some .directory) (text : String) :
    t.KeepsDirectories (t.moved old text new) := by
  refine (t.keepsDirectories_set hold none).trans (keepsDirectories_set _ ?_ _)
  by_cases h : new = old
  · rw [h, node?_set_self]
    simp
  · rwa [node?_set_of_ne t h]

end set

/-! ### Where paths lead -/

/-- The location to which a step leads from a directory, if it leads anywhere. -/
def stepFrom (l : Location) (name : String) : Location :=
  if name = "." then l else if name = ".." then l.dropLast else l ++ [name]

/-- The location to which a path leads, if it leads anywhere. -/
def destination (t : FileTree) (p : Path) : Location :=
  p.steps.foldl stepFrom (if p.isAbsolute then [] else t.workingDirectory)

theorem destination_congr {t t' : FileTree} (h : t'.workingDirectory = t.workingDirectory)
    (p : Path) : t'.destination p = t.destination p := by
  rw [destination, destination, h]

/-- What is found at a place is what the tree has at its location. -/
def Holds (t : FileTree) : Place → Prop
  | .file l text => t.node? l = some (.file text)
  | .vacant l => t.node? l = none
  | .directory _ => True

/-- The location of a place. -/
def location : Place → Location
  | .file l _ | .directory l | .vacant l => l

/-- The location of a place at which a file stands or can be put. -/
def fileLocation? : Place → Option Location
  | .file l _ | .vacant l => some l
  | .directory _ => none

/-- The path leads to the location, at which a file stands or can be put. -/
def Names (t : FileTree) (p : Path) (l : Location) : Prop :=
  ∃ pl, t.place p = .ok pl ∧ fileLocation? pl = some l

section walk
variable {t t' : FileTree} {p : Path} {l : Location}

theorem holds_of_walk {start : Location} {steps : List String} {pl : Place}
    (h : t.walk start steps = .ok pl) : t.Holds pl := by
  fun_induction walk t start steps with
  | case1 start =>
      cases h
      trivial
  | case2 start rest ih => exact ih h
  | case3 start rest hdot ih => exact ih h
  | case5 start name rest hdot hdots hsize location hnode ih => exact ih h
  | case6 start name rest hdot hdots hsize location text hnode hrest =>
      cases h
      exact hnode
  | case8 start name rest hdot hdots hsize location hnode hrest =>
      cases h
      exact hnode
  | case4 | case7 | case9 => cases h

theorem location_of_walk {start : Location} {steps : List String} {pl : Place}
    (h : t.walk start steps = .ok pl) : location pl = steps.foldl stepFrom start := by
  fun_induction walk t start steps with
  | case1 start =>
      cases h
      rfl
  | case2 start rest ih =>
      rw [ih h]
      rfl
  | case3 start rest hdot ih =>
      rw [ih h]
      rfl
  | case5 start name rest hdot hdots hsize location hnode ih =>
      rw [ih h, List.foldl_cons, stepFrom, if_neg hdot, if_neg hdots]
  | case6 start name rest hdot hdots hsize location text hnode hrest =>
      cases h
      rw [List.isEmpty_iff.mp hrest, List.foldl_cons, stepFrom, if_neg hdot, if_neg hdots]
      rfl
  | case8 start name rest hdot hdots hsize location hnode hrest =>
      cases h
      rw [List.isEmpty_iff.mp hrest, List.foldl_cons, stepFrom, if_neg hdot, if_neg hdots]
      rfl
  | case4 | case7 | case9 => cases h

theorem walk_file {start : Location} {name text : String} {rest : List String} (hdot : name ≠ ".")
    (hdots : name ≠ "..") (hsize : ¬maxNameSize < name.utf8ByteSize) (hrest : rest.isEmpty = true)
    (h : t.node? (start ++ [name]) = some (.file text)) :
    t.walk start (name :: rest) = .ok (.file (start ++ [name]) text) := by
  rw [walk, if_neg hdot, if_neg hdots, if_neg hsize]
  simp only [h, hrest, if_true]

/-- A walk passes through directories only, so it ends at the same location as long as these stay
and finds the file that now stands there. -/
theorem walk_eq_file (hk : t.KeepsDirectories t') {y : String}
    (hl : t'.node? l = some (.file y)) {start : Location} {steps : List String} {pl : Place}
    (h : t.walk start steps = .ok pl) (hpl : fileLocation? pl = some l) :
    t'.walk start steps = .ok (.file l y) := by
  fun_induction walk t start steps with
  | case1 start =>
      cases h
      cases hpl
  | case2 start rest ih => rw [walk, if_pos rfl, ih h]
  | case3 start rest hdot ih => rw [walk, if_neg hdot, if_pos rfl, ih h]
  | case5 start name rest hdot hdots hsize location hnode ih =>
      rw [walk, if_neg hdot, if_neg hdots, if_neg hsize]
      simp only [location] at hnode ih
      simp only [hk.directory _ hnode, ih h]
  | case6 start name rest hdot hdots hsize location text hnode hrest =>
      cases h
      obtain rfl : start ++ [name] = l := Option.some.inj hpl
      exact walk_file hdot hdots hsize hrest hl
  | case8 start name rest hdot hdots hsize location hnode hrest =>
      cases h
      obtain rfl : start ++ [name] = l := Option.some.inj hpl
      exact walk_file hdot hdots hsize hrest hl
  | case4 | case7 | case9 => cases h

/-- A walk whose last step is not one of dots ends at a directory only if one stands there. -/
theorem node?_of_walk_directory {start : Location} {steps : List String}
    (hdots : (steps.getLast?.all fun name => name = "." || name = "..") = false)
    (h : t.walk start steps = .ok (.directory l)) : t.node? l = some .directory := by
  fun_induction walk t start steps with
  | case1 start => simp at hdots
  | case2 start rest ih =>
      cases rest with
      | nil => simp at hdots
      | cons next rest => exact ih (by simpa using hdots) h
  | case3 start rest hdot ih =>
      cases rest with
      | nil => simp at hdots
      | cons next rest => exact ih (by simpa using hdots) h
  | case5 start name rest hdot hdots' hsize location hnode ih =>
      cases rest with
      | nil =>
          have hl : location = l := by simpa [walk] using h
          rw [← hl, hnode]
      | cons next rest => exact ih (by simpa using hdots) h
  | case4 | case6 | case7 | case8 | case9 => cases h

theorem place_eq_ok_iff {pl : Place} :
    t.place p = .ok pl ↔
      (p.text.toList.contains '\x00' = false ∧ p.text.isEmpty = false ∧
        p.text.utf8ByteSize ≤ maxPathSize) ∧
      t.walk (if p.isAbsolute then [] else t.workingDirectory) p.steps = .ok pl := by
  rw [place, follow]
  grind

theorem holds_of_place {pl : Place} (h : t.place p = .ok pl) : t.Holds pl :=
  holds_of_walk (place_eq_ok_iff.mp h).2

theorem location_of_place {pl : Place} (h : t.place p = .ok pl) : location pl = t.destination p :=
  location_of_walk (place_eq_ok_iff.mp h).2

/-- A path still names its location as long as directories stay. -/
theorem Names.place_eq (h : t.Names p l) (hk : t.KeepsDirectories t') {y : String}
    (hl : t'.node? l = some (.file y)) : t'.place p = .ok (.file l y) := by
  obtain ⟨pl, hpl, hat⟩ := h
  obtain ⟨hguards, hwalk⟩ := place_eq_ok_iff.mp hpl
  refine place_eq_ok_iff.mpr ⟨hguards, ?_⟩
  rw [hk.start]
  exact walk_eq_file hk hl hwalk hat

theorem names_iff :
    t.Names p l ↔ (∃ text, t.place p = .ok (.file l text)) ∨ t.place p = .ok (.vacant l) := by
  constructor
  · rintro ⟨pl, hpl, hat⟩
    cases pl with
    | file l' text => exact .inl ⟨text, by rw [hpl, Option.some.inj hat]⟩
    | directory l' => cases hat
    | vacant l' => exact .inr (by rw [hpl, Option.some.inj hat])
  · rintro (⟨text, h⟩ | h)
    · exact ⟨_, h, rfl⟩
    · exact ⟨_, h, rfl⟩

theorem Names.eq_destination (h : t.Names p l) : l = t.destination p := by
  obtain ⟨text, hfile⟩ | hvacant := names_iff.mp h
  · exact location_of_place hfile
  · exact location_of_place hvacant

theorem Names.not_directory (h : t.Names p l) : t.node? l ≠ some .directory := by
  obtain ⟨text, hfile⟩ | hvacant := names_iff.mp h
  · simp [show t.node? l = some (.file text) from holds_of_place hfile]
  · simp [show t.node? l = none from holds_of_place hvacant]

theorem walk_next (t : FileTree) (start : Location) (steps : List String) :
    t.next.walk start steps = t.walk start steps := by
  induction steps generalizing start with
  | nil => rfl
  | cons name rest ih =>
      simp only [walk, ih]
      rfl

theorem Names.next (h : t.Names p l) : t.next.Names p l := by
  obtain ⟨pl, hpl, hat⟩ := h
  obtain ⟨hguards, hwalk⟩ := place_eq_ok_iff.mp hpl
  exact ⟨pl, place_eq_ok_iff.mpr ⟨hguards, (t.walk_next _ _).trans hwalk⟩, hat⟩

end walk

/-! ### What the operations do -/

section operations
variable {t t' : FileTree} {p source target : Path} {l : Location} {text : String}

theorem entry_eq_file_iff :
    t.entry p = .ok (.file l text) ↔
      t.place p = .ok (.file l text) ∧ p.endsInSlash = false := by
  rw [entry]
  grind

theorem readText_eq_ok_iff :
    t.readText p = .ok text ↔
      ∃ l, t.place p = .ok (.file l text) ∧ p.endsInSlash = false := by
  simp only [← entry_eq_file_iff]
  rw [readText]
  grind

theorem writeText_eq_ok_iff :
    t.writeText p text = .ok t' ↔
      p.endsInSlash = false ∧ ∃ l, t.Names p l ∧ t' = t.set l (some (.file text)) := by
  simp only [names_iff]
  rw [writeText]
  grind

theorem writeText_next (h : t.writeText p text = .ok t') :
    t.next.writeText p text = .ok t'.next := by
  obtain ⟨hslash, l, hnames, rfl⟩ := writeText_eq_ok_iff.mp h
  exact writeText_eq_ok_iff.mpr ⟨hslash, l, hnames.next, rfl⟩

/-- Writing puts a file at the location that the path names and leaves the rest as it is. -/
theorem place_of_writeText (h : t.writeText p text = .ok t') :
    ∃ l, t' = t.set l (some (.file text)) ∧ t.KeepsDirectories t' ∧
      t'.place p = .ok (.file l text) ∧ p.endsInSlash = false := by
  obtain ⟨hslash, l, hnames, rfl⟩ := writeText_eq_ok_iff.mp h
  have hk := t.keepsDirectories_set hnames.not_directory (some (.file text))
  exact ⟨l, rfl, hk, hnames.place_eq hk (t.node?_set_self _), hslash⟩

theorem readText_of_writeText (h : t.writeText p text = .ok t') : t'.readText p = .ok text := by
  obtain ⟨l, -, -, hplace, hslash⟩ := place_of_writeText h
  exact readText_eq_ok_iff.mpr ⟨l, hplace, hslash⟩

/-- A file is read as before if the tree has only been added to. -/
theorem readText_of_builds {places : Set Location} (h : t.readText p = .ok text)
    (ht : t.Builds places t') : t'.readText p = .ok text := by
  obtain ⟨l, hplace, hslash⟩ := readText_eq_ok_iff.mp h
  have hl : t'.node? l = some (.file text) := ht.node_eq (holds_of_place hplace)
  exact readText_eq_ok_iff.mpr
    ⟨l, Names.place_eq ⟨_, hplace, rfl⟩ ht.keepsDirectories hl, hslash⟩

theorem kind?_of_readText (h : t.readText p = .ok text) : t.kind? p = some .file := by
  obtain ⟨l, hplace, hslash⟩ := readText_eq_ok_iff.mp h
  rw [kind?, entry_eq_file_iff.mpr ⟨hplace, hslash⟩]

/-- A path leads nowhere after directories are made elsewhere, if nothing stands at its location and
it does not end in dots. -/
theorem kind?_of_builds {places : Set Location} (hdots : endsInDots p = false)
    (hvacant : t.node? (t.destination p) = none) (hplaces : t.destination p ∉ places)
    (h : t.Builds places t') : t'.kind? p = none := by
  have hvacant' : t'.node? (t'.destination p) = none := by
    rw [destination_congr h.start]
    obtain hsame | ⟨hl, -⟩ := h.node (t.destination p)
    · rw [hsame, hvacant]
    · exact absurd hl hplaces
  rw [kind?]
  split
  · next l text hentry =>
    have hplace := (entry_eq_file_iff.mp hentry).1
    have hnode : t'.node? l = some (.file text) := holds_of_place hplace
    rw [show l = t'.destination p from location_of_place hplace, hvacant'] at hnode
    cases hnode
  · next l hentry =>
    have hplace : t'.place p = .ok (.directory l) := by
      rw [entry] at hentry
      grind
    have hnode := node?_of_walk_directory hdots (place_eq_ok_iff.mp hplace).2
    rw [show l = t'.destination p from location_of_place hplace, hvacant'] at hnode
    cases hnode
  · rfl

theorem moveFile_eq_ok_iff :
    t.moveFile source target = .ok t' ↔
      ∃ old text new, (t.place source = .ok (.file old text) ∧ source.endsInSlash = false) ∧
        (t.Names target new ∧ target.endsInSlash = false) ∧ t' = t.moved old text new := by
  simp only [names_iff, ← entry_eq_file_iff]
  rw [moveFile]
  grind

theorem builds_makeDirectory (h : t.makeDirectory p = .ok t') :
    t.Builds {t.destination p} t' := by
  rw [makeDirectory] at h
  split at h
  · next l hplace =>
    cases h
    rw [← location_of_place hplace]
    exact t.builds_set (holds_of_place hplace)
  · cases h
  · cases h

end operations

/-! ### Running computations -/

/-- What a computation that can fail gives on a tree, and the tree that it leaves. -/
def run {ε α : Type} (t : FileTree) (c : ExceptT ε (StateM FileTree) α) : Except ε α × FileTree :=
  StateT.run c.run t

section run
variable {ε α β : Type} (t : FileTree)

theorem run_bind (c : ExceptT ε (StateM FileTree) α) (f : α → ExceptT ε (StateM FileTree) β) :
    t.run (c >>= f) =
      match t.run c with
      | (.ok a, t') => t'.run (f a)
      | (.error e, t') => (.error e, t') := by
  simp only [run, ExceptT.run_bind, StateT.run_bind]
  rcases StateT.run c.run t with ⟨_ | a, t'⟩ <;> rfl

theorem run_kind? (p : Path) :
    t.run (Files.kind? p : ExceptT ε (StateM FileTree) _) = (.ok (t.kind? p), t) :=
  rfl

/-- How a change can end: it is made, nothing is done of it, or a part. Without faults, only what
the paths do not allow is not made. -/
inductive Changed (change : FileTree → Except FileError FileTree)
    (part : Nat → FileTree → Except FileError FileTree) (t : FileTree) :
    Except FileError Unit → FileTree → Prop
  | made {t' : FileTree} (h : change t.next = .ok t') : Changed change part t (.ok ()) t'
  | refused {reason : FileError} (h : t.Faultless → change t.next = .error reason) :
      Changed change part t (.error reason) t.next
  | brokenOff {fault : FileFault} {size : Nat} {t' : FileTree}
      (met : t.faults = some fault :: t.next.faults) (written : fault.written = some size)
      (h : part size t.next = .ok t') : Changed change part t (.error fault.reason) t'

theorem changed_update (change : FileTree → Except FileError FileTree)
    (part : Nat → FileTree → Except FileError FileTree) :
    Changed change part t (update change part t).1 (update change part t).2 := by
  unfold update
  cases hfault : t.faults.head?.join with
  | none =>
      cases h : change t.next with
      | ok t' => exact .made h
      | error reason => exact .refused fun _ => h
  | some fault =>
      have hmet : t.faults = some fault :: t.next.faults :=
        List.eq_cons_of_mem_head? (Option.join_eq_some_iff.mp hfault)
      have hrefused : t.Faultless → change t.next = .error fault.reason :=
        fun hnone => absurd hmet (hnone.ne_cons _ _)
      obtain ⟨reason, _ | size⟩ := fault
      · exact .refused hrefused
      · dsimp only
        cases h : part size t.next with
        | ok t' => exact .brokenOff hmet rfl h
        | error _ => exact .refused hrefused

theorem run_writeText (p : Path) (text : String) :
    ∃ r t', t.run (Files.writeText p text : ExceptT ε (StateM FileTree) _) = (.ok r, t') ∧
      Changed (·.writeText p text) (fun size t => t.writeText p (beginning size text)) t r t' :=
  ⟨_, _, rfl, changed_update t _ _⟩

theorem run_makeDirectory (p : Path) :
    ∃ r t', t.run (Files.makeDirectory p : ExceptT ε (StateM FileTree) _) = (.ok r, t') ∧
      Changed (·.makeDirectory p) (fun _ => .ok) t r t' :=
  ⟨_, _, rfl, changed_update t _ _⟩

theorem run_moveFile (source target : Path) :
    ∃ r t', t.run (Files.moveFile source target : ExceptT ε (StateM FileTree) _) = (.ok r, t') ∧
      Changed (·.moveFile source target) (fun _ => .ok) t r t' :=
  ⟨_, _, rfl, changed_update t _ _⟩

end run

/-! ### One computation after another -/

section inTurn
variable {α β γ : Type}

/-- Runs a computation for each item in turn. Each item is given with what came of it. -/
def inTurn (f : α → StateM FileTree β) (items : List α) : StateM FileTree (List (α × β)) :=
  items.mapM fun a => do return (a, ← f a)

theorem run_inTurn_cons (f : α → StateM FileTree β) (a : α) (items : List α) (t : FileTree) :
    (inTurn f (a :: items)).run t =
      ((a, ((f a).run t).1) :: ((inTurn f items).run ((f a).run t).2).1,
        ((inTurn f items).run ((f a).run t).2).2) := by
  rw [inTurn, List.mapM_cons]
  rfl

theorem map_fst_inTurn (f : α → StateM FileTree β) (items : List α) (t : FileTree) :
    ((inTurn f items).run t).1.map Prod.fst = items := by
  induction items generalizing t with
  | nil => rfl
  | cons a items ih => simp [run_inTurn_cons, ih]

/-- What holds before the first item and is kept by each of them, as the outcomes become more,
holds behind the last one. -/
theorem inTurn_induction {I : List (α × β) → FileTree → Prop} (f : α → StateM FileTree β)
    {items : List α} {t : FileTree} (hstart : I [] t)
    (hstep : ∀ done t₁, ∀ a ∈ items, I done t₁ →
      I (done ++ [(a, ((f a).run t₁).1)]) ((f a).run t₁).2) :
    I ((inTurn f items).run t).1 ((inTurn f items).run t).2 := by
  suffices h : ∀ done, I done t →
      I (done ++ ((inTurn f items).run t).1) ((inTurn f items).run t).2 from h [] hstart
  clear hstart
  induction items generalizing t with
  | nil =>
      intro done hdone
      rw [show (inTurn f []).run t = ([], t) from rfl, List.append_nil]
      exact hdone
  | cons a items ih =>
      intro done hdone
      have hrest := ih (fun done t₁ b hb => hstep done t₁ b (List.mem_cons_of_mem _ hb)) _
        (hstep done t a List.mem_cons_self hdone)
      rw [run_inTurn_cons]
      rwa [List.append_assoc] at hrest

/-- What the last item gives of those that give something. -/
def lastGiven (give : α → Option γ) (items : List α) : Option γ :=
  items.reverse.findSome? give

theorem lastGiven_concat (give : α → Option γ) (items : List α) (a : α) :
    lastGiven give (items ++ [a]) = (give a).or (lastGiven give items) := by
  rw [lastGiven, List.reverse_append, List.reverse_singleton, List.singleton_append,
    List.findSome?_cons]
  cases give a <;> rfl

end inTurn

/-! ### Making the directories of a path -/

/-- The second path is the first one, or that of a directory in which the first one lies. -/
def Within : Path → Path → Prop :=
  Relation.ReflTransGen fun p q => p.parent? = some q

/-- The locations of a path and of the directories in which it lies. -/
def way (t : FileTree) (p : Path) : Set Location :=
  {l | ∃ q, Within p q ∧ l = t.destination q}

theorem way_congr {t t' : FileTree} (h : t'.workingDirectory = t.workingDirectory) (p : Path) :
    t'.way p = t.way p := by
  simp only [way, destination_congr h]

theorem way_parent {p q : Path} (h : p.parent? = some q) (t : FileTree) : t.way q ⊆ t.way p := by
  rintro l ⟨r, hr, rfl⟩
  exact ⟨r, .head h hr, rfl⟩

theorem mem_way_iff {p q : Path} (h : p.parent? = some q) {t : FileTree} {l : Location} :
    l ∈ t.way p ↔ l = t.destination p ∨ l ∈ t.way q := by
  constructor
  · rintro ⟨r, hr, rfl⟩
    obtain rfl | ⟨q', hq', hr'⟩ := hr.cases_head
    · exact .inl rfl
    · cases h.symm.trans hq'
      exact .inr ⟨r, hr', rfl⟩
  · rintro (rfl | hl)
    · exact ⟨p, .refl, rfl⟩
    · exact way_parent h t hl

theorem mem_way_iff_of_none {p : Path} (h : p.parent? = none) {t : FileTree} {l : Location} :
    l ∈ t.way p ↔ l = t.destination p := by
  constructor
  · rintro ⟨r, hr, rfl⟩
    obtain rfl | ⟨q', hq', hr'⟩ := hr.cases_head
    · rfl
    · cases h.symm.trans hq'
  · rintro rfl
    exact ⟨p, .refl, rfl⟩

/-- The locations of the directories in which a path lies. -/
def above (t : FileTree) (p : Path) : Set Location :=
  {l | ∃ q, p.parent? = some q ∧ l ∈ t.way q}

theorem above_congr {t t' : FileTree} (h : t'.workingDirectory = t.workingDirectory) (p : Path) :
    t'.above p = t.above p := by
  simp only [above, way_congr h]

theorem above_eq_way {p q : Path} (h : p.parent? = some q) (t : FileTree) :
    t.above p = t.way q := by
  simp [above, h]

section onlyBuilds
variable {ε α β : Type} {p : Path}

/-- Running the computation adds nothing to a tree but directories on the way of a path. -/
def OnlyBuilds (p : Path) (c : ExceptT ε (StateM FileTree) α) : Prop :=
  ∀ t : FileTree, t.Builds (t.way p) (t.run c).2

theorem onlyBuilds_pure (a : α) : OnlyBuilds p (pure a : ExceptT ε (StateM FileTree) α) :=
  fun t => .refl t _

theorem OnlyBuilds.bind {c : ExceptT ε (StateM FileTree) α} {f : α → ExceptT ε (StateM FileTree) β}
    (hc : OnlyBuilds p c) (hf : ∀ a, OnlyBuilds p (f a)) : OnlyBuilds p (c >>= f) := by
  intro t
  have hstep := hc t
  rw [run_bind]
  split
  · next a t' h =>
    rw [h] at hstep
    have hrest := hf a t'
    rw [way_congr hstep.start] at hrest
    exact hstep.trans hrest
  · next e t' h =>
    rw [h] at hstep
    exact hstep

theorem OnlyBuilds.of_parent {c : ExceptT ε (StateM FileTree) α} {q : Path}
    (h : p.parent? = some q) (hc : OnlyBuilds q c) : OnlyBuilds p c :=
  fun t => (hc t).mono (way_parent h t)

theorem onlyBuilds_makeDirectory (p : Path) :
    OnlyBuilds p (Files.makeDirectory p : ExceptT ε (StateM FileTree) _) := by
  intro t
  obtain ⟨r, t', hrun, hchanged⟩ := run_makeDirectory (ε := ε) t p
  rw [hrun]
  cases hchanged with
  | made h =>
      refine (t.builds_next _).trans ((builds_makeDirectory h).mono ?_)
      rintro l rfl
      exact ⟨p, .refl, rfl⟩
  | refused h => exact t.builds_next _
  | brokenOff met written h =>
      cases h
      exact t.builds_next _

theorem onlyBuilds_ensureDirectory (p : Path) :
    OnlyBuilds p (Files.ensureDirectory p : ExceptT ε (StateM FileTree) _) := by
  refine (onlyBuilds_makeDirectory p).bind fun made => ?_
  cases made with
  | ok => exact onlyBuilds_pure _
  | error e =>
      refine OnlyBuilds.bind (fun t => ?_) fun kind => onlyBuilds_pure _
      rw [run_kind?]
      exact .refl t _

theorem onlyBuilds_ensurePathWithin (depth : Nat) (p : Path) :
    OnlyBuilds p (Files.ensurePathWithin depth p : ExceptT ε (StateM FileTree) _) := by
  induction depth generalizing p with
  | zero =>
      unfold Files.ensurePathWithin
      split
      · exact onlyBuilds_pure _
      · refine (onlyBuilds_ensureDirectory p).bind fun made => ?_
        split <;> exact onlyBuilds_pure _
  | succ depth ih =>
      unfold Files.ensurePathWithin
      split
      · exact onlyBuilds_pure _
      · refine (onlyBuilds_ensureDirectory p).bind fun made => ?_
        cases hparent : p.parent? with
        | none => split <;> exact onlyBuilds_pure _
        | some parent =>
            split
            · refine ((ih parent).of_parent hparent).bind fun above => ?_
              cases above with
              | ok => exact onlyBuilds_ensureDirectory p
              | error e => exact onlyBuilds_pure _
            · exact onlyBuilds_pure _

/-- Making the directories of a path leaves everything that is there as it is, and adds nothing
but directories on the way of the path. -/
theorem builds_ensurePath (t : FileTree) (p : Path) :
    t.Builds (t.way p) (t.run (Files.ensurePath p : ExceptT ε (StateM FileTree) _)).2 :=
  onlyBuilds_ensurePathWithin _ p t

end onlyBuilds

section inDirectory
variable {ε α : Type}

/-- A computation before which the directory of a path is made, unless it is there. -/
def inDirectory (p : Path) (failed : Path → FileError → ε)
    (rest : ExceptT ε (StateM FileTree) α) : ExceptT ε (StateM FileTree) α :=
  match p.parent? with
  | some parent => do
    match ← Files.ensurePath parent with
    | .ok () => rest
    | .error reason => throw (failed parent reason)
  | none => rest

/-- Either the directory cannot be made, or it is there for the computation. -/
theorem run_inDirectory (t : FileTree) (p : Path) (failed : Path → FileError → ε)
    (rest : ExceptT ε (StateM FileTree) α) :
    ∃ t₁, t.Builds (t.above p) t₁ ∧
      ((∃ e, t.run (inDirectory p failed rest) = (.error e, t₁)) ∨
        t.run (inDirectory p failed rest) = t₁.run rest) := by
  unfold inDirectory
  cases hparent : p.parent? with
  | none => exact ⟨t, .refl t _, .inr rfl⟩
  | some parent =>
      have hstep : t.Builds (t.above p)
          (t.run (Files.ensurePath parent : ExceptT ε (StateM FileTree) _)).2 :=
        (builds_ensurePath t parent).mono fun l hl => ⟨parent, hparent, hl⟩
      refine ⟨_, hstep, ?_⟩
      rw [run_bind]
      rcases t.run (Files.ensurePath parent : ExceptT ε (StateM FileTree) _) with ⟨e | made, t₁⟩
      · exact .inl ⟨e, rfl⟩
      · cases made with
        | ok => exact .inr rfl
        | error reason => exact .inl ⟨failed parent reason, rfl⟩

end inDirectory

end FileTree

end RecordFilter
