import RecordFilter.Proofs.Actions
import RecordFilter.Proofs.ConfigText
import RecordFilter.Proofs.FileTrees

/-! # The configuration as a store

The commands on the configuration read and write the file at one path.  `ConfigRun` says all that
one of them can do: it fails before it writes, and then nothing has changed but that directories
were made; it breaks off as it writes; it only looks; it puts the template where nothing was; or it
writes the configuration that was loaded, with one choice made in it.  A tree `Keeps` a
configuration if nothing is or can come to stand at the path, where nothing is chosen, or if the
text of the file there is that of a document with it.  This is what every command preserves that
does not break off, and it makes the configuration a store in which the last choice counts
(`load_after_commands`).

The configuration is written in place, so a write that breaks off, as on a full disk, leaves a part
of it.  And a path at which nothing stands is not enough to begin with.  The directories that are
made for a file can make its path lead to one of them, as the path `a/../a` does, and then no
configuration can be read or written there any more. -/

namespace RecordFilter

namespace Config

open FileTree

/-! ### Reading and writing the file -/

section file
variable {t t' : FileTree} {p : Path} {c : Config}

/-- How writing a text to a path can end: before the file is touched, with a part of the text in it,
or with all of it. -/
inductive Writing (p : Path) (text : String) (failed : FileError → ConfigError) (t : FileTree) :
    Except ConfigError Unit → FileTree → Prop
  | unwritten {t₁ : FileTree} {e : ConfigError} (directories : t.Builds (t.above p) t₁) :
      Writing p text failed t (.error e) t₁
  | brokenOff {reason : FileError} {t₁ : FileTree} (faults : t₁.faults <:+ t.faults)
      (broken : ¬ t.Unbroken t₁) : Writing p text failed t (.error (failed reason)) t₁
  | written {t₁ t₂ : FileTree} (directories : t.Builds (t.above p) t₁)
      (write : t₁.writeText p text = .ok t₂) : Writing p text failed t (.ok ()) t₂

/-- Writes a text to a path in a directory that is there. -/
def put (p : Path) (text : String) (failed : FileError → ConfigError) :
    ExceptT ConfigError (StateM FileTree) Unit := do
  match ← Files.writeText p text with
  | .ok () => return ()
  | .error reason => throw (failed reason)

theorem writing_put {text : String} (failed : FileError → ConfigError) {t₁ : FileTree}
    (h : t.Builds (t.above p) t₁) :
    Writing p text failed t (t₁.run (put p text failed)).1 (t₁.run (put p text failed)).2 := by
  unfold put
  obtain ⟨result, t₂, hrun, hwrite⟩ := run_writeText (ε := ConfigError) t₁ p text
  have h₁ := h.trans (t₁.builds_next _)
  rw [run_bind, hrun]
  cases hwrite with
  | made hwrite => exact .written h₁ hwrite
  | refused => exact .unwritten h₁
  | brokenOff met written hpart =>
      obtain ⟨-, l, -, rfl⟩ := writeText_eq_ok_iff.mp hpart
      exact .brokenOff h₁.faults fun hwhole =>
        not_unbroken_of_written met written (hwhole.split h.faults (List.tail_suffix _)).2

theorem write_eq (p : Path) (text : String) (failed : FileError → ConfigError) :
    (write p text failed : ExceptT ConfigError (StateM FileTree) Unit) =
      inDirectory p (fun _ => .noDirectory) (put p text failed) := by
  unfold write inDirectory
  cases p.parent? <;> rfl

theorem writing_write (t : FileTree) (p : Path) (text : String)
    (failed : FileError → ConfigError) :
    Writing p text failed t (t.run (write p text failed)).1 (t.run (write p text failed)).2 := by
  rw [write_eq]
  obtain ⟨t₁, directories, ⟨e, hrun⟩ | hrun⟩ :=
    run_inDirectory t p (fun _ => .noDirectory) (put p text failed)
  · rw [hrun]
    exact .unwritten directories
  · rw [hrun]
    exact writing_put failed directories

theorem run_load_of_absent (h : t.kind? p = none) :
    t.run (load p) = (.ok ⟨currentVersion, unset⟩, t) := by
  have hload := FileView.run_load_config t p
  rwa [FileView.configFault?, FileView.document,
    show (ObservableFiles.view t).kind? p = none from h] at hload

theorem run_load_of_readText {text : String} {document : Document} (h : t.readText p = .ok text)
    (hread : Document.read? text = some document) : t.run (load p) = (.ok document, t) := by
  have hload := FileView.run_load_config t p
  rw [FileView.configFault?, FileView.document,
    show (ObservableFiles.view t).kind? p = some .file from kind?_of_readText h,
    show (ObservableFiles.view t).readText p = .ok text from h] at hload
  simp only [hread] at hload
  exact hload

/-! ### What is kept -/

/-- The tree has this configuration: nothing is chosen where nothing stands at the path, not even
once directories are made for it, and else it is that of the file. -/
inductive Keeps (p : Path) (t : FileTree) : Config → Prop
  | absent (h : ∀ t', t.Builds (t.above p) t' → t'.kind? p = none) : Keeps p t unset
  | present {text : String} {c : Config} (file : t.readText p = .ok text)
      (read : Document.read? text = some ⟨currentVersion, c⟩) : Keeps p t c

theorem Keeps.run_load (h : Keeps p t c) : t.run (load p) = (.ok ⟨currentVersion, c⟩, t) := by
  cases h with
  | absent h => exact run_load_of_absent (h t (.refl t _))
  | present file read => exact run_load_of_readText file read

theorem Keeps.eq_unset (h : Keeps p t c) (hnone : t.kind? p = none) : c = unset := by
  cases h with
  | absent h => rfl
  | present file read =>
      rw [kind?_of_readText file] at hnone
      cases hnone

theorem Keeps.of_builds (h : Keeps p t c) (ht : t.Builds (t.above p) t') : Keeps p t' c := by
  cases h with
  | absent h =>
      refine .absent fun t₂ ht₂ => h t₂ ?_
      rw [above_congr ht.start] at ht₂
      exact ht.trans ht₂
  | present file read => exact .present (readText_of_builds file ht) read

theorem keeps_of_write {t₁ t₂ : FileTree} {text : String} (write : t₁.writeText p text = .ok t₂)
    (read : Document.read? text = some ⟨currentVersion, c⟩) : Keeps p t₂ c :=
  .present (readText_of_writeText write) read

end file

/-! ### What the commands do -/

/-- The words that stand for truth values. -/
def flagWords : List String :=
  ["true", "yes", "1", "on", "false", "no", "0", "off"]

theorem flag?_eq_none {value : String} (h : lowercase value ∉ flagWords) : flag? value = none := by
  simp only [flagWords, List.mem_cons, not_or] at h
  simp [flag?, h]

/-- Choices that there are not: of another key, or of a word for a truth value that is none. -/
def Unsettable (key value : String) : Prop :=
  key ≠ "data_path" ∧ key ≠ "output.color" ∨ key = "output.color" ∧ lowercase value ∉ flagWords

theorem Unsettable.set_ne_ok {key value : String} (h : Unsettable key value) (c c' : Config) :
    c.set key value ≠ .ok c' := by
  rcases h with ⟨hpath, hcolor⟩ | ⟨rfl, hvalue⟩
  · simp [Config.set, hpath, hcolor]
  · simp [Config.set, flag?_eq_none hvalue]

/-- Commands that only look at the files. -/
inductive Looks (p : Path) (t : FileTree) : ConfigCommand → Prop
  | show : Looks p t .show
  | path : Looks p t .path
  | init (present : t.kind? p ≠ none) : Looks p t .init

theorem Looks.present {p : Path} {t : FileTree} (h : Looks p t .init) : t.kind? p ≠ none := by
  cases h with
  | init present => exact present

/-- Failures as a text is written to the file of the configuration. -/
inductive WhileWriting : Failure → Prop
  | changing (reason : FileError) : WhileWriting (.config (.unwritable reason))
  | creating (reason : FileError) : WhileWriting (.config (.notCreated reason))

/-- How a command on the configuration at a path can end. -/
inductive ConfigRun (p : Path) (t : FileTree) :
    ConfigCommand → Except Failure String → FileTree → Prop
  | failed {command : ConfigCommand} {f : Failure} {t₁ : FileTree}
      (directories : t.Builds (t.above p) t₁) : ConfigRun p t command (.error f) t₁
  | looked {command : ConfigCommand} {output : String} (look : Looks p t command) :
      ConfigRun p t command (.ok output) t
  | halfBegun {reason : FileError} {t₁ : FileTree} (absent : t.kind? p = none)
      (faults : t₁.faults <:+ t.faults) (broken : ¬ t.Unbroken t₁) :
      ConfigRun p t .init (.error (.config (.notCreated reason))) t₁
  | begun {output : String} {t₁ t₂ : FileTree} (absent : t.kind? p = none)
      (directories : t.Builds (t.above p) t₁) (write : t₁.writeText p template = .ok t₂) :
      ConfigRun p t .init (.ok output) t₂
  | halfChanged {key value : String} {reason : FileError} {document : Document} {c : Config}
      {t₁ : FileTree} (set : document.config.set key value = .ok c)
      (faults : t₁.faults <:+ t.faults) (broken : ¬ t.Unbroken t₁) :
      ConfigRun p t (.set key value) (.error (.config (.unwritable reason))) t₁
  | changed {key value output : String} {document : Document} {c : Config} {t₁ t₂ : FileTree}
      (load : t.run (load p) = (.ok document, t)) (set : document.config.set key value = .ok c)
      (directories : t.Builds (t.above p) t₁) (write : t₁.writeText p c.text = .ok t₂) :
      ConfigRun p t (.set key value) (.ok output) t₂

section commands
variable {e : Environment} {settings : Settings} {t : FileTree}

open RecordFilter.Action

/-- The action ends in a way in which the command can, whatever events are behind it. -/
def CarriesOut (p : Path) (t : FileTree) (command : ConfigCommand)
    (action : Action (StateM FileTree) String) : Prop :=
  ∀ events, ConfigRun p t command (runFrom action events t).1.1 (runFrom action events t).2

theorem carriesOut_of_gives {command : ConfigCommand} {action : Action (StateM FileTree) String}
    {fault : Option Failure} {output : String} {p : Path}
    (hlook : Looks p t command)
    (h : action.Gives t (blockedBy fault (.ok output))) : CarriesOut p t command action := by
  intro events
  obtain ⟨events', hrun⟩ := h events
  rw [hrun]
  cases fault with
  | some f => exact .failed (.refl t _)
  | none => exact .looked hlook

theorem carriesOut_show : CarriesOut e.configPath t .show (showConfig e settings) := by
  have hgives : ∃ output, Gives (showConfig e settings) t
      (blockedBy (((ObservableFiles.view t).configFault? e.configPath).map .config)
        (.ok output)) :=
    ⟨_, (gives_loadConfig t e).bind ((gives_isPresent t e.configPath).bind_ok (gives_pure t _))⟩
  obtain ⟨output, hgives⟩ := hgives
  exact carriesOut_of_gives .show hgives

theorem carriesOut_path : CarriesOut e.configPath t .path (showConfigPath e settings) := by
  have hgives : ∃ output, Gives (showConfigPath e settings) t (blockedBy none (.ok output)) :=
    ⟨_, (gives_isPresent t e.configPath).bind_ok (gives_pure t _)⟩
  obtain ⟨output, hgives⟩ := hgives
  exact carriesOut_of_gives .path hgives

theorem run_init (t : FileTree) (p : Path) :
    t.run (init p) =
      if (t.kind? p).isSome then (.ok false, t)
      else match t.run (write p template .notCreated) with
        | (.ok (), t') => (.ok true, t')
        | (.error e, t') => (.error e, t') := by
  unfold init
  change t.run (Files.kind? p >>= fun kind => (if kind.isSome = true then
    pure false else write p template .notCreated >>= fun _ => pure true)) = _
  rw [run_bind, run_kind?]
  cases t.kind? p with
  | none =>
      change t.run (write p template .notCreated >>= fun _ => pure true) = _
      rw [run_bind]
      rcases t.run (write p template .notCreated) with ⟨_ | _, t'⟩ <;> rfl
  | some kind => rfl

theorem carriesOut_init : CarriesOut e.configPath t .init (initConfig e settings) := by
  intro events
  unfold initConfig
  rw [runFrom_bind, runFrom_attempt, ← FileTree.run, run_init]
  cases hkind : t.kind? e.configPath with
  | some kind => exact .looked (.init (by simp [hkind]))
  | none =>
      have hwrite := writing_write t e.configPath template .notCreated
      rcases hrun : t.run (write e.configPath template .notCreated) with ⟨r, t₁⟩
      rw [hrun] at hwrite
      cases hwrite with
      | unwritten directories => exact .failed directories
      | brokenOff faults broken => exact .halfBegun hkind faults broken
      | written directories write => exact .begun hkind directories write

theorem carriesOut_set (key value : String) :
    CarriesOut e.configPath t (.set key value) (setConfig e settings key value) := by
  intro events
  have hload := FileView.run_load_config t e.configPath
  obtain ⟨events₁, hgives⟩ := gives_loadConfig t e events
  unfold setConfig
  rw [runFrom_bind, hgives]
  cases hfault : (ObservableFiles.view t).configFault? e.configPath with
  | some err => exact .failed (.refl t _)
  | none =>
      rw [hfault] at hload
      simp only [Option.map_none, blockedBy, runFrom_bind]
      cases hset : ((ObservableFiles.view t).document e.configPath).config.set key value with
      | error err => exact .failed (.refl t _)
      | ok c =>
          have hwrite := writing_write t e.configPath c.text .unwritable
          simp only [runFrom_ofExcept_ok, runFrom_attempt, save]
          rw [← FileTree.run]
          rcases hrun : t.run (write e.configPath c.text .unwritable) with ⟨r, t₁⟩
          rw [hrun] at hwrite
          cases hwrite with
          | unwritten directories => exact .failed directories
          | brokenOff faults broken => exact .halfChanged hset faults broken
          | written directories write => exact .changed hload hset directories write

theorem carriesOut_runConfig (command : ConfigCommand) :
    CarriesOut e.configPath t command (runConfig e settings command) := by
  cases command with
  | «show» => exact carriesOut_show
  | path => exact carriesOut_path
  | init => exact carriesOut_init
  | set key value => exact carriesOut_set key value

theorem carriesOut_run {line : CommandLine} {command : ConfigCommand}
    (hcommand : line.command = some (.config command)) :
    CarriesOut e.configPath t command (line.run e) := by
  rw [CommandLine.run, hcommand]
  exact carriesOut_runConfig command

end commands

section step
variable {t t' : FileTree} {p : Path} {c : Config} {command : ConfigCommand}
  {r : Except Failure String}

/-- A command that only looks, that cannot be carried out, or that fails otherwise than by breaking
off as it writes, leaves every file as it is. -/
theorem ConfigRun.file_iff (h : ConfigRun p t command r t')
    (hwrite : Looks p t command ∨ (∃ key value, command = .set key value ∧ Unsettable key value) ∨
      ∃ f, r = .error f ∧ (WhileWriting f → t.Unbroken t')) (l : Location) (text : String) :
    t'.node? l = some (.file text) ↔ t.node? l = some (.file text) := by
  cases h with
  | failed directories => exact directories.file_iff l text
  | looked => rfl
  | halfBegun absent faults broken =>
      rcases hwrite with look | ⟨key, value, hset, -⟩ | ⟨f, hf, hwhole⟩
      · exact absurd absent look.present
      · cases hset
      · cases hf
        exact absurd (hwhole (.creating _)) broken
  | begun absent =>
      rcases hwrite with look | ⟨key, value, hset, -⟩ | ⟨f, hf, -⟩
      · exact absurd absent look.present
      · cases hset
      · cases hf
  | halfChanged set faults broken =>
      rcases hwrite with look | ⟨key, value, hcommand, hset⟩ | ⟨f, hf, hwhole⟩
      · cases look
      · cases hcommand
        exact absurd set (hset.set_ne_ok _ _)
      · cases hf
        exact absurd (hwhole (.changing _)) broken
  | changed load set =>
      rcases hwrite with look | ⟨key, value, hcommand, hset⟩ | ⟨f, hf, -⟩
      · cases look
      · cases hcommand
        exact absurd set (hset.set_ne_ok _ _)
      · cases hf

theorem ConfigRun.faults (h : ConfigRun p t command r t') : t'.faults <:+ t.faults := by
  have hwritten {t₁ t₂ : FileTree} {text : String} (directories : t.Builds (t.above p) t₁)
      (write : t₁.writeText p text = .ok t₂) : t₂.faults <:+ t.faults := by
    obtain ⟨l, -, hk, -⟩ := place_of_writeText write
    exact hk.faults.trans directories.faults
  cases h with
  | failed directories => exact directories.faults
  | looked => exact List.suffix_rfl
  | halfBegun _ faults | halfChanged _ faults => exact faults
  | begun absent directories write => exact hwritten directories write
  | changed load set directories write => exact hwritten directories write

/-- A choice that there is not is not made. -/
theorem ConfigRun.error_of_set {key value : String} (h : ConfigRun p t (.set key value) r t')
    (hset : Unsettable key value) : ∃ f, r = .error f := by
  cases h with
  | failed | halfChanged => exact ⟨_, rfl⟩
  | looked look => cases look
  | changed load set => exact absurd set (hset.set_ne_ok _ _)

end step

/-! ### Commands one after another -/

/-- What a command line came to, with the events up to it. -/
abbrev LineOutcome := CommandLine × (Except Failure String × List Event)

/-- The value to which a command set the key, if it did and succeeded. -/
def set? (key : String) : LineOutcome → Option String
  | (line, .ok _, _) =>
    match line.command with
    | some (.config (.set key' value)) => if key' = key then some value else none
    | _ => none
  | (_, .error _, _) => none

/-- The value to which the key was set last. -/
def lastSet (key : String) (outcomes : List LineOutcome) : Option String :=
  lastGiven (set? key) outcomes

/-- The configuration in which each setting has the value to which it was set last. -/
def lastChosen (outcomes : List LineOutcome) : Config :=
  ⟨(lastSet "data_path" outcomes).map Path.mk, (lastSet "output.color" outcomes).bind flag?⟩

/-- Carries out command lines one after the other, whether or not the ones before succeeded. -/
def runEach (e : Environment) (lines : List CommandLine) : StateM FileTree (List LineOutcome) :=
  inTurn (fun line => (line.run e).outcome) lines

section runEach
variable {e : Environment} {t t' : FileTree} {p : Path}

theorem lastChosen_of_not_set {done : List LineOutcome} {o : LineOutcome}
    (h : ∀ key, set? key o = none) : lastChosen (done ++ [o]) = lastChosen done := by
  simp [lastChosen, lastSet, lastGiven_concat, h]

theorem lastChosen_of_set {done : List LineOutcome} {line : CommandLine} {key value output : String}
    {events : List Event} {c : Config} (hcommand : line.command = some (.config (.set key value)))
    (hset : (lastChosen done).set key value = .ok c) :
    lastChosen (done ++ [(line, .ok output, events)]) = c := by
  have hlast : ∀ key', lastSet key' (done ++ [(line, .ok output, events)]) =
      if key = key' then some value else lastSet key' done := by
    intro key'
    rw [lastSet, lastGiven_concat, set?, hcommand]
    by_cases hkey : key = key'
    · simp [hkey]
    · simp [hkey, lastSet]
  unfold Config.set at hset
  split at hset
  · next hkey =>
    cases hset
    simp [lastChosen, hlast, hkey]
  · next hpath =>
    split at hset
    · next hkey =>
      split at hset
      · next color hcolor =>
        cases hset
        simp [lastChosen, hlast, hkey, hcolor]
      · cases hset
    · cases hset

/-- Each command that does not break off keeps the configuration with the last choices. -/
theorem Keeps.step {done : List LineOutcome} {line : CommandLine} {command : ConfigCommand}
    {r : Except Failure String} {events : List Event} (h : Keeps p t (lastChosen done))
    (hcommand : line.command = some (.config command)) (hrun : ConfigRun p t command r t')
    (hwhole : t.Unbroken t') :
    Keeps p t' (lastChosen (done ++ [(line, r, events)])) := by
  cases hrun with
  | failed directories =>
      rw [lastChosen_of_not_set fun key => rfl]
      exact h.of_builds directories
  | halfBegun _ _ broken | halfChanged _ _ broken => exact absurd hwhole broken
  | looked look =>
      rw [lastChosen_of_not_set fun key => ?_]
      · exact h
      · cases look <;> simp [set?, hcommand]
  | begun absent directories write =>
      rw [lastChosen_of_not_set fun key => by simp [set?, hcommand], h.eq_unset absent]
      exact keeps_of_write write read?_template
  | changed load set directories write =>
      rw [h.run_load] at load
      cases load
      rw [lastChosen_of_set hcommand set]
      exact keeps_of_write write (read?_text _)

/-- **The configuration is a store in which the last choice counts.**  Where nothing stands at its
path, not even once directories are made for it, the configuration that is loaded after any commands
on it is the one with the last choices that succeeded, as long as none of their writes breaks off.
In any tree, a command that only looks, that makes a choice that there is not, or that fails
otherwise than by a write that breaks off, leaves every file as it is. -/
theorem load_after_commands {e : Environment} {t : FileTree}
    (hnone : ∀ t', t.Builds (t.above e.configPath) t' → t'.kind? e.configPath = none) :
    (∀ lines : List CommandLine,
      (∀ line ∈ lines, ∃ command, line.command = some (.config command)) →
        let run := (runEach e lines).run t
        run.1.map Prod.fst = lines ∧ (t.Unbroken run.2 →
          run.2.run (load e.configPath) = (.ok ⟨currentVersion, lastChosen run.1⟩, run.2))) ∧
    ∀ (t₁ : FileTree) (line : CommandLine) (command : ConfigCommand),
      line.command = some (.config command) →
        let run := (line.run e : Action (StateM FileTree) String).outcome.run t₁
        (Looks e.configPath t₁ command ∨
            (∃ key value, command = .set key value ∧ Unsettable key value) ∨
            (∃ f, run.1.1 = .error f ∧ (WhileWriting f → t₁.Unbroken run.2)) →
          ∀ l text, run.2.node? l = some (.file text) ↔ t₁.node? l = some (.file text)) ∧
        ∀ key value, command = .set key value → Unsettable key value →
          ∃ f, run.1.1 = .error f := by
  refine ⟨fun lines hlines => ⟨map_fst_inTurn _ lines t, ?_⟩, ?_⟩
  · let I := fun (done : List LineOutcome) (t₁ : FileTree) =>
      t₁.faults <:+ t.faults ∧ (t.Unbroken t₁ → Keeps e.configPath t₁ (lastChosen done))
    suffices h : I ((runEach e lines).run t).1 ((runEach e lines).run t).2 from
      fun hwhole => (h.2 hwhole).run_load
    refine inTurn_induction _ ⟨List.suffix_rfl, fun _ => .absent hnone⟩
      fun done t₁ line hline hdone => ?_
    obtain ⟨command, hcommand⟩ := hlines line hline
    have hrun := carriesOut_run (e := e) (t := t₁) hcommand []
    refine ⟨hrun.faults.trans hdone.1, fun hwhole => ?_⟩
    obtain ⟨hbefore, hnow⟩ := hwhole.split hdone.1 hrun.faults
    exact (hdone.2 hbefore).step hcommand hrun hnow
  · intro t₁ line command hcommand run
    have hrun : ConfigRun e.configPath t₁ command run.1.1 run.2 :=
      carriesOut_run hcommand []
    refine ⟨hrun.file_iff, ?_⟩
    rintro key value rfl hset
    exact hrun.error_of_set hset

end runEach

/-- The last choices that succeed count, for two settings in turn. -/
theorem load_after_commands_choices :
    let e : Environment := ⟨some "conf/c.toml", none, none, none, "home", none⟩
    let line (command : ConfigCommand) : CommandLine :=
      ⟨false, false, false, false, none, some (.config command)⟩
    let lines := [line (.set "output.color" "Off"), line (.set "data_path" "x.json"), line .init,
      line (.set "output.color" "blue")]
    let t := ((runEach e lines).run FileTree.empty).2
    t.run (load e.configPath) = (.ok ⟨currentVersion, ⟨some ⟨"x.json"⟩, some false⟩⟩, t) := by
  intro e line lines t
  have hparent : e.configPath.parent? = some ⟨"conf"⟩ := by decide
  have hparent' : (Path.mk "conf").parent? = some ⟨""⟩ := by decide
  have hroot : (Path.mk "").parent? = none := by decide
  have hplaces : FileTree.empty.destination e.configPath ∉ FileTree.empty.above e.configPath := by
    rw [above_eq_way hparent, mem_way_iff hparent', mem_way_iff_of_none hroot]
    decide
  have hnone : ∀ t', FileTree.empty.Builds (FileTree.empty.above e.configPath) t' →
      t'.kind? e.configPath = none :=
    fun t' => kind?_of_builds (by decide) rfl hplaces
  have hlast : lastChosen ((runEach e lines).run FileTree.empty).1 =
      ⟨some ⟨"x.json"⟩, some false⟩ := by
    decide +kernel
  have hfaults : FileTree.empty.faults = [] ++ t.faults := by
    decide +kernel
  have hload := ((load_after_commands hnone).1 lines (by simp [lines, line])).2 ⟨[], hfaults, nofun⟩
  rwa [hlast] at hload

/-- No configuration can be loaded any more once a directory stands at its path, or once a full disk
has broken off a write to it. -/
theorem load_after_commands_lost :
    let e (file : String) : Environment := ⟨some file, none, none, none, "home", none⟩
    let line (key value : String) : CommandLine :=
      ⟨false, false, false, false, none, some (.config (.set key value))⟩
    let broken := (runEach (e "c.toml") [line "data_path" "x.json", line "output.color" "on"]).run
      (fullDisk 1 5)
    FileTree.empty.kind? (e "a/../a").configPath = none ∧
      (((runEach (e "a/../a") [line "data_path" "x.json"]).run FileTree.empty).2.run
        (load (e "a/../a").configPath)).1 = .error (.unreadable .isADirectory) ∧
      broken.1.map (·.2.1) = [.ok "Set data_path = x.json\n",
        .error (.config (.unwritable noSpace))] ∧
      (broken.2.run (load (e "c.toml").configPath)).1 = .error .malformed := by
  decide +kernel

end Config

end RecordFilter
