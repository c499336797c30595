import RecordFilter.Config
import RecordFilter.Dataset
import RecordFilter.Files.Tree

/-! # What is seen of files

Loading looks at files and changes none, so what it comes to depends only on what is seen of them,
a `FileView`.  A computation that may fail is given with its fault, if it has one, and with the
value that it has otherwise (`blockedBy`). -/

namespace RecordFilter

/-! ### Looking at files -/

/-- What is seen of files: what each path names, and the text of each file. -/
structure FileView where
  kind? : Path → Option FileKind
  readText : Path → Except FileError String

/-- Files that stay as they are when they are looked at. -/
class ObservableFiles (σ : Type) extends Files (StateM σ) where
  view : σ → FileView
  kind?_eq : ∀ (p : Path) (s : σ), (Files.kind? p : StateM σ _).run s = ((view s).kind? p, s)
  readText_eq : ∀ (p : Path) (s : σ),
    (Files.readText p : StateM σ _).run s = ((view s).readText p, s)

instance : ObservableFiles FileTree where
  view t := ⟨t.kind?, t.readText⟩
  kind?_eq _ _ := rfl
  readText_eq _ _ := rfl

/-! ### Results with faults -/

section results
variable {α β ε : Type}

/-- The error of a result, if it is one. -/
def fault? : Except ε α → Option ε
  | .ok _ => none
  | .error e => some e

/-- A result that a fault keeps from being reached, if there is one. -/
def blockedBy (fault : Option ε) (r : Except ε α) : Except ε α :=
  match fault with
  | some e => .error e
  | none => r

theorem blockedBy_first_cons (fault : Option ε) (faults : List (Option ε)) (r : Except ε α) :
    blockedBy ((fault :: faults).findSome? id) r =
      blockedBy fault (blockedBy (faults.findSome? id) r) := by
  cases fault <;> rfl

theorem blockedBy_first_nil (r : Except ε α) :
    blockedBy (([] : List (Option ε)).findSome? id) r = r := rfl

theorem mapError_blockedBy (failure : ε → β) (fault : Option ε) (a : α) :
    (blockedBy fault (.ok a)).mapError failure = blockedBy (fault.map failure) (.ok a) := by
  cases fault <;> rfl

theorem bind_blockedBy (fault : Option ε) (a : α) (f : α → Except ε β) :
    (blockedBy fault (.ok a) >>= f) = blockedBy fault (f a) := by
  cases fault <;> rfl

theorem exists_eq_blockedBy [Nonempty α] (r : Except ε α) :
    ∃ a, r = blockedBy (fault? r) (.ok a) := by
  cases r with
  | ok a => exact ⟨a, rfl⟩
  | error e => exact ⟨Classical.ofNonempty, rfl⟩

end results

/-! ### Loading -/

namespace FileView

section faults
variable (v : FileView)

/-- Why the configuration at a path cannot be used. One that is not there is not at fault. -/
def configFault? (p : Path) : Option ConfigError :=
  if (v.kind? p).isNone then none
  else
    match v.readText p with
    | .error reason => some (.unreadable reason)
    | .ok text => if (Config.Document.read? text).isNone then some .malformed else none

/-- The document of the configuration at a path. Nothing is chosen if there is none. -/
def document (p : Path) : Config.Document :=
  let absent : Config.Document := ⟨Config.currentVersion, .unset⟩
  match v.kind? p, v.readText p with
  | some _, .ok text => (Config.Document.read? text).getD absent
  | _, _ => absent

/-- Why the dataset at a path cannot be used. One that is not there is not at fault. -/
def datasetFault? (p : Path) : Option StorageError :=
  match v.readText p with
  | .error .notFound => none
  | .error reason => some (.unreadable p reason)
  | .ok text => if (Dataset.read? text).isNone then some .malformed else none

/-- The dataset at a path, which is empty if there is no file. -/
def dataset (p : Path) : Except StorageError Dataset :=
  match v.readText p with
  | .error .notFound => .ok .empty
  | .error reason => .error (.unreadable p reason)
  | .ok text => (Dataset.read? text).elim (.error .malformed) .ok

theorem fault?_dataset (p : Path) : fault? (v.dataset p) = v.datasetFault? p := by
  unfold dataset datasetFault?
  cases v.readText p with
  | error reason => cases reason <;> rfl
  | ok text => cases h : Dataset.read? text <;> simp [h, fault?]

end faults

section loads
variable {σ α ε : Type} [ObservableFiles σ] (s : σ) (p : Path)

open ObservableFiles (view)

theorem run_isPresent_bind (f : Bool → ExceptT ε (StateM σ) α) :
    StateT.run (Files.isPresent p >>= f).run s =
      StateT.run (f ((view s).kind? p).isSome).run s := by
  change (match (Files.kind? p : StateM σ _).run s with
    | (kind, s') => StateT.run (f kind.isSome).run s') = _
  rw [ObservableFiles.kind?_eq]

theorem run_readText_bind (f : Except FileError String → ExceptT ε (StateM σ) α) :
    StateT.run (Files.readText p >>= f).run s =
      StateT.run (f ((view s).readText p)).run s := by
  change (match (Files.readText p : StateM σ _).run s with
    | (text, s') => StateT.run (f text).run s') = _
  rw [ObservableFiles.readText_eq]

theorem run_load_config :
    StateT.run (Config.load p : ExceptT ConfigError (StateM σ) _).run s =
      (blockedBy ((view s).configFault? p) (.ok ((view s).document p)), s) := by
  unfold Config.load
  rw [run_isPresent_bind]
  unfold FileView.document FileView.configFault?
  cases (view s).kind? p with
  | none => rfl
  | some kind =>
      simp only [Option.isSome_some, if_true, run_readText_bind]
      cases (view s).readText p with
      | error reason => rfl
      | ok text =>
          cases hread : Config.Document.read? text with
          | none =>
              simp only [hread]
              rfl
          | some document =>
              simp only [hread]
              rfl

theorem run_load_dataset :
    StateT.run (Dataset.load p : ExceptT StorageError (StateM σ) _).run s =
      (match (view s).readText p with
      | .ok text => (Dataset.read? text).elim (.error .malformed) .ok
      | .error reason => .error (.unreadable p reason), s) := by
  unfold Dataset.load
  rw [run_readText_bind]
  cases (view s).readText p with
  | error reason => rfl
  | ok text => cases h : Dataset.read? text <;> simp only [h] <;> rfl

theorem run_loadOrEmpty :
    StateT.run (Dataset.loadOrEmpty p : ExceptT StorageError (StateM σ) _).run s =
      ((view s).dataset p, s) := by
  unfold Dataset.loadOrEmpty FileView.dataset
  rw [ExceptT.run_tryCatch, StateT.run_bind, run_load_dataset]
  cases (view s).readText p with
  | error reason => cases reason <;> rfl
  | ok text => cases h : Dataset.read? text <;> simp only [h] <;> rfl

end loads

end FileView

end RecordFilter
