import RecordFilter.Dataset
import RecordFilter.Proofs.FileTrees
import RecordFilter.Proofs.FileViews
import RecordFilter.Proofs.StoredRecords

/-! # Loading what was saved

A dataset is loaded from a tree if its path names a file whose text is read as that dataset
(`run_load_eq_ok_iff`), so loading sees one file only.  Saving takes three steps, each of which can
fail: directories are made, a draft is written, and the draft is moved to the path (`Saving`).  The
first leaves every file as it is.  The second can break off and leave a part of the draft, but it
writes no other file, and the third replaces the file as a whole or not at all.

So a save that fails leaves the dataset that is loaded from its path, if the draft is another file
than the one at the path.  Where it is the same, as at `x.tmp`, the dataset is written in place.
Then the path is `Safe` only on a disk without faults: what has been written can always be moved
there (`moveFile_ne_error`), but a write that breaks off has spoiled the file.  After any number of
saves at a safe path the dataset of the last one that succeeded is loaded (`load_of_saveAll`).

A save touches two files only, the one at its path and the draft (`Saving.file_iff`).  Where two
paths spare each other's files, saves at the one and at the other can follow each other in any order
(`load_of_saveEach`).  That the files are different is not enough: a save leaves nothing at the
place of its draft, and so it removes a dataset that is stored there. -/

namespace RecordFilter

namespace Dataset

open FileTree

/-! ### What loading sees -/

section load
variable {t t' : FileTree} {p : Path} {d : Dataset}

theorem run_load_iff_readText :
    t.run (load p) = (.ok d, t) ↔ ∃ text, t.readText p = .ok text ∧ read? text = some d := by
  have hload : t.run (load p) = _ := FileView.run_load_dataset t p
  rw [hload, show (ObservableFiles.view t).readText p = t.readText p from rfl]
  cases t.readText p with
  | error reason => simp
  | ok text => cases h : read? text <;> simp [h]

theorem run_load_eq_ok_iff :
    t.run (load p) = (.ok d, t) ↔
      p.endsInSlash = false ∧
        ∃ l text, t.place p = .ok (.file l text) ∧ read? text = some d := by
  rw [run_load_iff_readText]
  simp only [readText_eq_ok_iff]
  grind

theorem run_load_of_file (hload : t.run (load p) = (.ok d, t)) (hk : t.KeepsDirectories t')
    (hfile : ∀ text, t.node? (t.destination p) = some (.file text) →
      t'.node? (t.destination p) = some (.file text)) : t'.run (load p) = (.ok d, t') := by
  obtain ⟨hslash, l, text, hplace, hread⟩ := run_load_eq_ok_iff.mp hload
  obtain rfl : l = t.destination p := location_of_place hplace
  have hnode := hfile text (holds_of_place hplace)
  exact run_load_eq_ok_iff.mpr
    ⟨hslash, _, text, Names.place_eq ⟨_, hplace, rfl⟩ hk hnode, hread⟩

end load

/-! ### What saving does -/

section save
variable {t t' : FileTree} {p : Path} {d : Dataset}

/-- How saving a dataset can end: before its draft is written, with the draft or a part of it left
behind, or with the draft in the place of the file. -/
inductive Saving (p : Path) (d : Dataset) (t : FileTree) :
    Except StorageError Unit → FileTree → Prop
  | unwritten {t₁ : FileTree} {e : StorageError} (directories : t.Builds (t.above p) t₁) :
      Saving p d t (.error e) t₁
  | unmoved {t₁ t₂ : FileTree} {e : StorageError} {text : String}
      (directories : t.Builds (t.above p) t₁)
      (draft : t₁.writeText (draftPath p) text = .ok t₂)
      (move : t.Faultless →
        text = d.text ∧ ∃ reason, t₂.moveFile (draftPath p) p = .error reason) :
      Saving p d t (.error e) t₂
  | stored {t₁ t₂ t₃ : FileTree} (directories : t.Builds (t.above p) t₁)
      (draft : t₁.writeText (draftPath p) d.text = .ok t₂)
      (move : t₂.moveFile (draftPath p) p = .ok t₃) :
      Saving p d t (.ok ()) t₃

/-- Writes the draft of a dataset and puts it in the place of the file. -/
def replace (p : Path) (d : Dataset) : ExceptT StorageError (StateM FileTree) Unit := do
  match ← Files.writeText (draftPath p) d.text with
  | .ok () =>
    match ← Files.moveFile (draftPath p) p with
    | .ok () => return ()
    | .error reason => throw (.unwritable p reason)
  | .error reason => throw (.unwritable (draftPath p) reason)

theorem saving_replace {t₁ : FileTree} (h : t.Builds (t.above p) t₁) :
    Saving p d t (t₁.run (replace p d)).1 (t₁.run (replace p d)).2 := by
  unfold replace
  obtain ⟨written, t₂, hrun, hwrite⟩ := run_writeText (ε := StorageError) t₁ (draftPath p) d.text
  have h₁ := h.trans (t₁.builds_next _)
  rw [run_bind, hrun]
  cases hwrite with
  | refused => exact .unwritten h₁
  | brokenOff met written hpart =>
      exact .unmoved h₁ hpart fun hnone => absurd met ((hnone.of_suffix h.faults).ne_cons _ _)
  | made hdraft =>
      obtain ⟨moved, t₃, hrun, hmove⟩ := run_moveFile (ε := StorageError) t₂ (draftPath p) p
      -- Both changes take a fault each, so the draft is as good as written behind both of them.
      have h₂ := h₁.trans (t₁.next.builds_next _)
      have hdraft' := writeText_next hdraft
      have hfaults : t₂.faults <:+ t.faults := by
        obtain ⟨l, rfl, hk, -⟩ := place_of_writeText hdraft
        exact hk.faults.trans h₁.faults
      simp only [run_bind, hrun]
      cases hmove with
      | made hmove => exact .stored h₂ hdraft' hmove
      | refused hmove =>
          exact .unmoved h₂ hdraft' fun hnone => ⟨rfl, _, hmove (hnone.of_suffix hfaults)⟩
      | brokenOff met written hpart =>
          cases hpart
          exact .unmoved h₂ hdraft' fun hnone =>
            absurd met ((hnone.of_suffix hfaults).ne_cons _ _)

theorem save_eq (p : Path) (d : Dataset) :
    (save p d : ExceptT StorageError (StateM FileTree) Unit) =
      inDirectory p .noDirectory (replace p d) := by
  unfold save inDirectory
  cases p.parent? <;> rfl

theorem saving_save (t : FileTree) (p : Path) (d : Dataset) :
    Saving p d t (t.run (save p d)).1 (t.run (save p d)).2 := by
  rw [save_eq]
  obtain ⟨t₁, directories, ⟨e, hrun⟩ | hrun⟩ := run_inDirectory t p .noDirectory (replace p d)
  · rw [hrun]
    exact .unwritten directories
  · rw [hrun]
    exact saving_replace directories

theorem run_load_of_saving_ok (h : Saving p d t (.ok ()) t') :
    t'.run (load p) = (.ok d, t') := by
  cases h with
  | @stored t₁ t₂ _ directories draft move =>
      obtain ⟨l, -, -, hplace, -⟩ := place_of_writeText draft
      obtain ⟨old, text, new, ⟨hsource, -⟩, ⟨hnew, hslash⟩, rfl⟩ := moveFile_eq_ok_iff.mp move
      obtain ⟨rfl, rfl⟩ : l = old ∧ d.text = text := by
        simpa [hplace] using hsource
      have hold : t₂.node? l ≠ some .directory :=
        Names.not_directory ⟨_, hplace, rfl⟩
      have hk := t₂.keepsDirectories_moved hold hnew.not_directory d.text
      exact run_load_eq_ok_iff.mpr
        ⟨hslash, new, d.text, hnew.place_eq hk (t₂.node?_moved _ _ _), read?_text d⟩

/-- Where a dataset can be loaded, its path names a file, in whose place any draft can be moved. -/
theorem moveFile_ne_error {d₀ : Dataset} {reason : FileError}
    (hload : t.run (load p) = (.ok d₀, t)) (hdraft : t.writeText (draftPath p) d.text = .ok t') :
    t'.moveFile (draftPath p) p ≠ .error reason := by
  obtain ⟨l, rfl, hk, hsource, hdraftSlash⟩ := place_of_writeText hdraft
  obtain ⟨hslash, new, text, hplace, -⟩ := run_load_eq_ok_iff.mp hload
  -- The path may name the draft itself, so what stands there may be new, but it is a file.
  obtain ⟨now, hnow⟩ : ∃ now, (t.set l (some (.file d.text))).node? new = some (.file now) := by
    by_cases h : new = l
    · exact ⟨d.text, by rw [h, node?_set_self]⟩
    · exact ⟨text, by rw [node?_set_of_ne t h, show t.node? new = _ from holds_of_place hplace]⟩
  have htarget := Names.place_eq ⟨_, hplace, rfl⟩ hk hnow
  rw [moveFile_eq_ok_iff.mpr
    ⟨l, d.text, new, ⟨hsource, hdraftSlash⟩, ⟨⟨_, htarget, rfl⟩, hslash⟩, rfl⟩]
  nofun

end save

/-! ### What a save touches -/

section touched
variable {t t' : FileTree} {p q : Path} {d : Dataset} {result : Except StorageError Unit}

theorem Saving.keepsDirectories (h : Saving p d t result t') : t.KeepsDirectories t' := by
  cases h with
  | unwritten directories => exact directories.keepsDirectories
  | unmoved directories draft =>
      obtain ⟨l, -, hk, -, -⟩ := place_of_writeText draft
      exact directories.keepsDirectories.trans hk
  | @stored t₁ t₂ _ directories draft move =>
      obtain ⟨l, -, hk, -, -⟩ := place_of_writeText draft
      obtain ⟨old, text, new, ⟨hsource, -⟩, ⟨hnew, -⟩, rfl⟩ := moveFile_eq_ok_iff.mp move
      have hold : Names t₂ (draftPath p) old := ⟨_, hsource, rfl⟩
      exact (directories.keepsDirectories.trans hk).trans
        (t₂.keepsDirectories_moved hold.not_directory hnew.not_directory text)

theorem writeText_draftPath {t₁ t₂ : FileTree} {text : String}
    (directories : t.Builds (t.above p) t₁) (draft : t₁.writeText (draftPath p) text = .ok t₂) :
    t₂ = t₁.set (t.destination (draftPath p)) (some (.file text)) := by
  obtain ⟨-, l, hnames, rfl⟩ := writeText_eq_ok_iff.mp draft
  rw [hnames.eq_destination, destination_congr directories.start]

theorem moveFile_draftPath {t₁ t₂ t₃ : FileTree} (directories : t.Builds (t.above p) t₁)
    (draft : t₁.writeText (draftPath p) d.text = .ok t₂)
    (move : t₂.moveFile (draftPath p) p = .ok t₃) :
    ∃ text, t₃ = t₂.moved (t.destination (draftPath p)) text (t.destination p) := by
  obtain ⟨old, text, new, ⟨hsource, -⟩, ⟨hnew, -⟩, rfl⟩ := moveFile_eq_ok_iff.mp move
  have hstart : t₂.workingDirectory = t.workingDirectory := by
    rw [writeText_draftPath directories draft]
    exact directories.start
  have hold : old = t₂.destination (draftPath p) := location_of_place hsource
  exact ⟨text, by rw [hold, hnew.eq_destination, destination_congr hstart,
    destination_congr hstart]⟩

/-- A save touches no other files than the draft and, if it succeeds, the one at its path. -/
theorem Saving.file_iff (h : Saving p d t result t') {l : Location}
    (hdraft : t.destination (draftPath p) ≠ l) (hfile : result = .ok () → t.destination p ≠ l)
    (text : String) : t'.node? l = some (.file text) ↔ t.node? l = some (.file text) := by
  cases h with
  | unwritten directories => exact directories.file_iff l text
  | unmoved directories draft =>
      rw [writeText_draftPath directories draft, node?_set_of_ne _ hdraft.symm]
      exact directories.file_iff l text
  | stored directories draft move =>
      obtain ⟨moved, rfl⟩ := moveFile_draftPath directories draft move
      rw [FileTree.moved, node?_set_of_ne _ (hfile rfl).symm, node?_set_of_ne _ hdraft.symm,
        writeText_draftPath directories draft, node?_set_of_ne _ hdraft.symm]
      exact directories.file_iff l text

/-- A save at the path that fails cannot have spoiled the file there: the draft is another file, or
else no change meets a fault. -/
def Safe (t : FileTree) (p : Path) : Prop :=
  t.destination (draftPath p) ≠ t.destination p ∨ t.Faultless

theorem Safe.of_keepsDirectories (h : Safe t p) (hk : t.KeepsDirectories t') : Safe t' p := by
  refine h.imp (fun hdraft => ?_) (·.of_suffix hk.faults)
  rwa [destination_congr hk.start, destination_congr hk.start]

theorem run_load_of_saving_error {e : StorageError} {d₀ : Dataset} (hsafe : Safe t p)
    (h : Saving p d t (.error e) t') (hload : t.run (load p) = (.ok d₀, t)) :
    t'.run (load p) = (.ok d₀, t') := by
  rcases hsafe with hdraft | hnone
  · exact run_load_of_file hload h.keepsDirectories fun text =>
      (h.file_iff hdraft (nomatch ·) text).mpr
  · have hbuilds {t₁ : FileTree} (directories : t.Builds (t.above p) t₁) :
        t₁.run (load p) = (.ok d₀, t₁) :=
      run_load_of_file hload directories.keepsDirectories fun text => directories.node_eq
    cases h with
    | unwritten directories => exact hbuilds directories
    | unmoved directories draft move =>
        obtain ⟨rfl, reason, hmove⟩ := move hnone
        exact absurd hmove (moveFile_ne_error (hbuilds directories) draft)

/-- Saving at the first path spares the file that the second path names. -/
structure Spares (t : FileTree) (p q : Path) : Prop where
  file : t.destination p ≠ t.destination q
  draft : t.destination (draftPath p) ≠ t.destination q

theorem Spares.congr (h : Spares t p q) (hstart : t'.workingDirectory = t.workingDirectory) :
    Spares t' p q := by
  refine ⟨?_, ?_⟩
  · rw [destination_congr hstart, destination_congr hstart]
    exact h.file
  · rw [destination_congr hstart, destination_congr hstart]
    exact h.draft

end touched

/-! ### Saving again and again -/

/-- The dataset of a save that succeeded, if it was one at the path. -/
def stored? (p : Path) : (Path × Dataset) × Except StorageError Unit → Option Dataset
  | ((q, d), .ok ()) => if q = p then some d else none
  | (_, .error _) => none

/-- Saves datasets one after the other, each at a path of its own, whether or not the ones before
could be saved. -/
def saveEach (saves : List (Path × Dataset)) :
    StateM FileTree (List ((Path × Dataset) × Except StorageError Unit)) :=
  inTurn (fun s => (save s.1 s.2).run) saves

/-- Saves datasets one after the other at one path. -/
def saveAll (p : Path) (ds : List Dataset) :
    StateM FileTree (List ((Path × Dataset) × Except StorageError Unit)) :=
  saveEach (ds.map (p, ·))

/-- The dataset of the last save at a path that succeeded. -/
def lastSaved (p : Path) (outcomes : List ((Path × Dataset) × Except StorageError Unit)) :
    Option Dataset :=
  lastGiven (stored? p) outcomes

section saves
variable {t t' : FileTree} {p q : Path} {d : Dataset} {last : Option Dataset}

theorem run_load_of_saving {s : Path × Dataset} {result : Except StorageError Unit}
    (hsafe : Safe t q) (hs : s.1 = q ∨ Spares t s.1 q) (h : Saving s.1 s.2 t result t')
    (hlast : ∀ d ∈ last, t.run (load q) = (.ok d, t)) :
    ∀ d ∈ (stored? q (s, result)).or last, t'.run (load q) = (.ok d, t') := by
  obtain ⟨p, d'⟩ := s
  intro d hd
  by_cases hp : p = q
  · subst hp
    cases result with
    | ok =>
        obtain rfl : d' = d := by simpa [stored?] using hd
        exact run_load_of_saving_ok h
    | error e => exact run_load_of_saving_error hsafe h (hlast d hd)
  · have hnone : stored? q ((p, d'), result) = none := by
      cases result with
      | ok => exact if_neg hp
      | error e => rfl
    have hspares : Spares t p q := hs.resolve_left hp
    rw [hnone, Option.none_or] at hd
    exact run_load_of_file (hlast d hd) h.keepsDirectories fun text =>
      (h.file_iff hspares.draft (fun _ => hspares.file) text).mpr

/-- As long as all other saves spare the file of a safe path, what was last saved there is loaded,
or what could be loaded at first. -/
theorem run_load_of_saveEach (hsafe : Safe t q) (hlast : ∀ d ∈ last, t.run (load q) = (.ok d, t))
    {saves : List (Path × Dataset)} (hsaves : ∀ s ∈ saves, s.1 = q ∨ Spares t s.1 q) :
    ∀ d ∈ (lastSaved q ((saveEach saves).run t).1).or last,
      ((saveEach saves).run t).2.run (load q) = (.ok d, ((saveEach saves).run t).2) := by
  let I := fun (outcomes : List ((Path × Dataset) × Except StorageError Unit)) (t' : FileTree) =>
    t.KeepsDirectories t' ∧ ∀ d ∈ (lastSaved q outcomes).or last, t'.run (load q) = (.ok d, t')
  suffices h : I ((saveEach saves).run t).1 ((saveEach saves).run t).2 from h.2
  refine inTurn_induction _ ⟨(Builds.refl t ∅).keepsDirectories, hlast⟩ fun done t₁ s hs hdone => ?_
  obtain ⟨hk, hlast⟩ := hdone
  have hsaving := saving_save t₁ s.1 s.2
  refine ⟨hk.trans hsaving.keepsDirectories, ?_⟩
  rw [lastSaved, lastGiven_concat, Option.or_assoc]
  exact run_load_of_saving (hsafe.of_keepsDirectories hk)
    ((hsaves s hs).imp_right (·.congr hk.start)) hsaving hlast

/-- **What is saved is what is loaded.**  Every dataset is read back from the text that saving
writes.  At a safe path, a save without success leaves what could be loaded before it, and after any
number of saves, whatever faults they meet, the dataset of the last one that succeeded is loaded, or
the one that could be loaded at first. -/
theorem load_of_saveAll (hsafe : Safe t p) :
    (∀ d, read? d.text = some d) ∧
    (∀ d₀ d e t', t.run (load p) = (.ok d₀, t) → t.run (save p d) = (.error e, t') →
      t'.run (load p) = (.ok d₀, t')) ∧
    ∀ ds first, (∀ d₀, first = some d₀ → t.run (load p) = (.ok d₀, t)) →
      let saved := (saveAll p ds).run t
      saved.1.map (·.1.2) = ds ∧
      ∀ d, (lastSaved p saved.1).or first = some d → saved.2.run (load p) = (.ok d, saved.2) := by
  refine ⟨read?_text, ?_, ?_⟩
  · intro d₀ d e t' hload hsave
    have hsaving := saving_save t p d
    rw [hsave] at hsaving
    exact run_load_of_saving_error hsafe hsaving hload
  · intro ds first hfirst saved
    refine ⟨?_, run_load_of_saveEach hsafe hfirst (by simp)⟩
    have hall : saved.1.map Prod.fst = ds.map (p, ·) := map_fst_inTurn _ _ t
    have hdatasets := congrArg (List.map Prod.snd) hall
    rwa [List.map_map, List.map_map, show Prod.snd ∘ (p, ·) = (id : Dataset → Dataset) from rfl,
      List.map_id] at hdatasets

end saves

/-- A dataset of one user. -/
def aliceAlone : Dataset :=
  ⟨[⟨1, 0, "\"alice\\\"\n", .admin⟩], []⟩

/-- A dataset of one session, at the last moment of a day with a leap second. -/
def bobAlone : Dataset :=
  ⟨[], [⟨2, -1, "bob", ⟨-4, 2, 29, by decide⟩, 1000, ⟨23, 59, 59, 1500000000, by decide⟩, "Минск",
    none, some ""⟩]⟩

/-- A disk that is full in the middle of a draft keeps a dataset from being saved, and the one that
was saved before is still loaded. -/
theorem load_of_saveAll_full :
    let saved := (saveAll ⟨"d.json"⟩ [bobAlone, aliceAlone]).run (fullDisk 2 7)
    saved.1 = [((⟨"d.json"⟩, bobAlone), .ok ()),
        ((⟨"d.json"⟩, aliceAlone), .error (.unwritable ⟨"d.tmp"⟩ noSpace))] ∧
      saved.2.run (load ⟨"d.json"⟩) = (.ok bobAlone, saved.2) := by
  intro saved
  obtain ⟨-, -, hsaved⟩ := load_of_saveAll (t := fullDisk 2 7) (p := ⟨"d.json"⟩) (.inl (by decide))
  have houtcomes : saved.1 = [((⟨"d.json"⟩, bobAlone), .ok ()),
      ((⟨"d.json"⟩, aliceAlone), .error (.unwritable ⟨"d.tmp"⟩ noSpace))] := by
    decide +kernel
  refine ⟨houtcomes, (hsaved [bobAlone, aliceAlone] none nofun).2 bobAlone ?_⟩
  rw [houtcomes]
  decide

/-- At `x.tmp` the draft is the file itself.  A disk that is full in the middle of a save leaves
nothing to be loaded there.  With a slash behind the path, a save fails when it moves the file to
itself, and the dataset in the file is another one by then. -/
theorem load_of_saveAll_in_place :
    let broken := (saveAll ⟨"x.tmp"⟩ [bobAlone, aliceAlone]).run (fullDisk 2 7)
    let slashed := (saveEach [(⟨"x.tmp"⟩, bobAlone), (⟨"x.tmp/"⟩, aliceAlone)]).run FileTree.empty
    broken.1 = [((⟨"x.tmp"⟩, bobAlone), .ok ()),
        ((⟨"x.tmp"⟩, aliceAlone), .error (.unwritable ⟨"x.tmp"⟩ noSpace))] ∧
      (broken.2.run (load ⟨"x.tmp"⟩)).1 = .error .malformed ∧
      slashed.1 = [((⟨"x.tmp"⟩, bobAlone), .ok ()),
        ((⟨"x.tmp/"⟩, aliceAlone), .error (.unwritable ⟨"x.tmp/"⟩ .notADirectory))] ∧
      (slashed.2.run (load ⟨"x.tmp"⟩)).1 = .ok aliceAlone := by
  intro broken slashed
  exact ⟨by decide +kernel, by decide +kernel, by decide +kernel, by decide +kernel⟩

/-! ### Stores side by side -/

end Dataset

end RecordFilter
