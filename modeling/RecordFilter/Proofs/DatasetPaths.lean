import Mathlib.Data.List.Induction
import RecordFilter.Proofs.ExclusiveFlags
import RecordFilter.Proofs.ListingRuns

/-! # Which dataset a listing reads

A dataset can be named by the option, by the variable, by the configuration and by the directory for
data, and in the end there is the home directory.  The first of these that names a path decides, and
what the others name makes no difference (`listing_by_deciding_source`).

The option and the variable belong to every command, and each command hands a value down to the one
below it.  The variable is seen at every command, so that a command may have it although the option
was given above; it gives way to the option then (`handedData?_eq`). -/

namespace RecordFilter

/-! ### The option and the variable -/

namespace CommandLevel

section values
variable {e e' : Environment} {levels above below : List CommandLevel} {level : CommandLevel}

theorem value?_concat (levels : List CommandLevel) (level : CommandLevel) (a : Argument) :
    value? (levels ++ [level]) a = (level.given.lookup a).or (value? levels a) := by
  simp only [value?, List.reverse_append, List.reverse_singleton, List.singleton_append,
    List.findSome?_cons]
  cases level.given.lookup a <;> rfl

theorem value?_innermost {a : Argument} {value : String} (h : level.given.lookup a = some value)
    (hbelow : ∀ inner ∈ below, inner.given.lookup a = none) :
    value? (above ++ level :: below) a = some value := by
  have hnone : below.reverse.findSome? (·.given.lookup a) = none :=
    List.findSome?_eq_none_iff.mpr fun inner hinner => hbelow inner (List.mem_reverse.mp hinner)
  rw [value?, List.reverse_append, List.reverse_cons, List.findSome?_append,
    List.findSome?_append, hnone, List.findSome?_singleton, h]
  rfl

/-- Whichever commands have the option, it is handed down to the innermost one, and the variable
only if there is none. -/
theorem handedData?_eq (e : Environment) (h : levels ≠ []) :
    handedData? e levels =
      ((value? levels .data).map (Origin.words, ·)).or (e.data.map (Origin.environment, ·)) := by
  induction levels using List.reverseRecOn with
  | nil => exact absurd rfl h
  | append_singleton levels level ih =>
      have hstep : handedData? e (levels ++ [level]) =
          handDown (handedData? e levels) (level.ownData? e) := by
        rw [handedData?, List.foldl_append]
        rfl
      rw [hstep, value?_concat, ownData?]
      by_cases hnil : levels = []
      · subst hnil
        cases level.given.lookup .data <;> cases e.data <;> rfl
      · rw [ih hnil]
        cases level.given.lookup .data <;> cases value? levels .data <;> cases e.data <;> rfl

theorem ne_nil_of_read {b : Branch} {s : Scan} {words : List String}
    (h : read e b s words = .ok levels) : levels ≠ [] := by
  induction words generalizing s levels with
  | nil =>
      obtain ⟨given, -, rfl⟩ := read_nil_eq_ok_iff.mp h
      simp
  | cons word words ih =>
      obtain ⟨s', -, hrest⟩ | ⟨child, below, given, -, -, -, rfl⟩ := read_cons_cases h
      · exact ih hrest
      · simp

/-- The environment can keep words from being accepted only by an empty path. -/
theorem read_of_environment {b : Branch} {s : Scan} {words : List String}
    (h : read e b s words = .ok levels) (hdata : e'.data ≠ some "") :
    read e' b s words = .ok levels := by
  have hfinish {b : Branch} {s : Scan} {given : List (Argument × String)}
      (h : s.finish b e = .ok given) : s.finish b e' = .ok given := by
    obtain ⟨settled, hsettle, hgiven, -, hflags, hoperands⟩ := Scan.finish_eq_ok_iff.mp h
    exact Scan.finish_eq_ok_iff.mpr
      ⟨settled, hsettle, hgiven, fun hempty => hdata hempty.2, hflags, hoperands⟩
  induction words generalizing b s levels with
  | nil =>
      obtain ⟨given, hgiven, rfl⟩ := read_nil_eq_ok_iff.mp h
      exact read_nil_eq_ok_iff.mpr ⟨given, hfinish hgiven, rfl⟩
  | cons word words ih =>
      have hcases := read_cons_eq_ok_iff.mp h
      refine read_cons_eq_ok_iff.mpr ?_
      split at hcases
      · next hown =>
          obtain ⟨s', hword, hrest⟩ := hcases
          rw [if_pos hown]
          exact ⟨s', hword, ih hrest⟩
      · next hnot =>
          obtain ⟨child, below, given, hchild, hbelow, hgiven, hlevels⟩ := hcases
          rw [if_neg hnot]
          exact ⟨child, below, given, hchild, ih hbelow, hfinish hgiven, hlevels⟩

end values

end CommandLevel

/-! ### The sources of a path -/

/-- What can name the dataset. -/
inductive DatasetSource where
  | option
  | environment
  | configuration
  | dataHome
  | home
  deriving DecidableEq

namespace DatasetSource

/-- The sources, each in front of those that it outranks. -/
def inOrder : List DatasetSource :=
  [.option, .environment, .configuration, .dataHome, .home]

/-- The number of sources that outrank a source. -/
def rank : DatasetSource → Nat
  | .option => 0
  | .environment => 1
  | .configuration => 2
  | .dataHome => 3
  | .home => 4

/-- The usual path of the dataset below a directory for data. -/
def usualPath (directory : Path) : Path :=
  (directory.join "wq").join "dataset.json"

/-- The path that a source names, if it names one.  A directory for data must be absolute. -/
def path? (levels : List CommandLevel) (e : Environment) (v : FileView) :
    DatasetSource → Option Path
  | .option => (CommandLevel.value? levels .data).map Path.mk
  | .environment => e.data.map Path.mk
  | .configuration => (v.document e.configPath).config.dataPath
  | .dataHome => e.dataHome.bind fun directory =>
      if (Path.mk directory).isAbsolute then some (usualPath ⟨directory⟩) else none
  | .home => some (usualPath ((Path.mk e.home).join ".local/share"))

/-- The source names the path, and none that outranks it names any. -/
structure Decides (levels : List CommandLevel) (e : Environment) (v : FileView)
    (source : DatasetSource) (p : Path) : Prop where
  named : source.path? levels e v = some p
  first : ∀ other : DatasetSource, other.rank < source.rank → other.path? levels e v = none

section decides
variable {levels : List CommandLevel} {e e' : Environment} {v v' : FileView}
  {source : DatasetSource} {p : Path}

theorem data_commandLine (h : levels ≠ []) :
    (CommandLevel.commandLine e levels).data =
      (option.path? levels e v).or (environment.path? levels e v) := by
  simp only [CommandLevel.commandLine, CommandLevel.handedData?_eq e h, path?]
  cases CommandLevel.value? levels .data <;> cases e.data <;> rfl

theorem path?_home :
    home.path? levels e v = some (usualPath ((Path.mk e.home).join ".local/share")) := rfl

theorem dataPath_eq : e.dataPath =
    (dataHome.path? levels e v).getD (usualPath ((Path.mk e.home).join ".local/share")) := by
  have husual : e.dataPath = usualPath e.dataDirectory := rfl
  rw [husual, Environment.dataDirectory, path?]
  cases e.dataHome with
  | none => rw [Option.bind_none, Option.getD_none]
  | some directory =>
      simp only [Option.bind_some]
      split
      · rw [Option.getD_some]
      · rw [Option.getD_none]

theorem findSome?_inOrder (h : levels ≠ []) :
    inOrder.findSome? (path? levels e v) =
      some ((CommandLevel.commandLine e levels).datasetPath e v) := by
  have hpath : (CommandLevel.commandLine e levels).datasetPath e v =
      (((option.path? levels e v).or (environment.path? levels e v)).or
        (configuration.path? levels e v)).getD ((dataHome.path? levels e v).getD
          (usualPath ((Path.mk e.home).join ".local/share"))) := by
    rw [CommandLine.datasetPath, data_commandLine h, dataPath_eq]
    rfl
  rw [hpath]
  simp only [inOrder, List.findSome?_cons, path?_home]
  cases option.path? levels e v <;> cases environment.path? levels e v <;>
    cases configuration.path? levels e v <;> cases dataHome.path? levels e v <;> simp

theorem exists_decides (h : levels ≠ []) : ∃ source : DatasetSource,
    source.Decides levels e v ((CommandLevel.commandLine e levels).datasetPath e v) := by
  obtain ⟨higher, source, lower, hsplit, hnamed, hfirst⟩ :=
    List.findSome?_eq_some_iff.mp (findSome?_inOrder (e := e) (v := v) h)
  refine ⟨source, hnamed, fun other hother => hfirst other ?_⟩
  have hsorted : (higher ++ source :: lower).Pairwise fun a b => a.rank < b.rank := by
    rw [← hsplit]
    decide
  have hmem : other ∈ higher ++ source :: lower := by
    rw [← hsplit]
    cases other <;> decide
  rcases List.mem_append.mp hmem with hhigher | hlower
  · exact hhigher
  · obtain rfl | hlower := List.mem_cons.mp hlower
    · exact absurd hother (Nat.lt_irrefl _)
    · have hrank := List.rel_of_pairwise_cons (List.pairwise_append.mp hsorted).2.1 hlower
      omega

theorem Decides.unique {source' : DatasetSource} {p' : Path} (h : source.Decides levels e v p)
    (h' : source'.Decides levels e v p') : source = source' ∧ p = p' := by
  have hrank : source.rank = source'.rank := by
    rcases Nat.lt_trichotomy source.rank source'.rank with hlt | heq | hlt
    · exact nomatch h.named.symm.trans (h'.first source hlt)
    · exact heq
    · exact nomatch h'.named.symm.trans (h.first source' hlt)
  obtain rfl : source = source' := by
    cases source <;> cases source' <;> first | rfl | cases hrank
  exact ⟨rfl, Option.some.inj (h.named.symm.trans h'.named)⟩

/-- A source decides whatever those that it outranks name. -/
theorem Decides.of_agree (h : source.Decides levels e v p)
    (hagree : ∀ other : DatasetSource, other.rank ≤ source.rank →
      other.path? levels e' v' = other.path? levels e v) : source.Decides levels e' v' p where
  named := (hagree source (Nat.le_refl _)).trans h.named
  first other hother := (hagree other (Nat.le_of_lt hother)).trans (h.first other hother)

theorem Decides.eq_datasetPath (h : source.Decides levels e v p) (hlevels : levels ≠ []) :
    (CommandLevel.commandLine e levels).datasetPath e v = p := by
  obtain ⟨other, hother⟩ := exists_decides (e := e) (v := v) hlevels
  exact (hother.unique h).2

theorem Decides.commandLine_eq (h : source.Decides levels e v p) (hlevels : levels ≠ [])
    (hagree : ∀ other : DatasetSource, other.rank ≤ source.rank →
      other.path? levels e' v' = other.path? levels e v) :
    CommandLevel.commandLine e' levels = CommandLevel.commandLine e levels := by
  have hdata : (CommandLevel.commandLine e' levels).data =
      (CommandLevel.commandLine e levels).data := by
    rw [data_commandLine (v := v') hlevels, data_commandLine (v := v) hlevels,
      hagree .option (Nat.zero_le _)]
    by_cases hoption : source = .option
    · subst hoption
      rw [h.named, Option.some_or, Option.some_or]
    · have hrank : environment.rank ≤ source.rank := by
        cases source <;> first | contradiction | decide
      rw [hagree .environment hrank]
  exact congrArg (fun data => { CommandLevel.commandLine e levels with data }) hdata

theorem Decides.settings_eq {line : CommandLine} (h : source.Decides levels e v p)
    (hlevels : levels ≠ []) (hline : CommandLevel.commandLine e levels = line)
    (hagree : ∀ other : DatasetSource, other.rank ≤ source.rank →
      other.path? levels e' v' = other.path? levels e v)
    (hcolor : (v'.document e'.configPath).config.color = (v.document e.configPath).config.color) :
    line.settings e' v' = line.settings e v := by
  have hpath : line.data.or (v'.document e'.configPath).config.dataPath =
      line.data.or (v.document e.configPath).config.dataPath := by
    by_cases hrank : configuration.rank ≤ source.rank
    · exact congrArg line.data.or (hagree .configuration hrank)
    · have hdata : line.data = some p := by
        rw [← hline, data_commandLine (v := v) hlevels]
        cases source with
        | option => rw [h.named, Option.some_or]
        | environment => rw [h.first .option (by decide), Option.none_or, h.named]
        | configuration => exact absurd (by decide) hrank
        | dataHome => exact absurd (by decide) hrank
        | home => exact absurd (by decide) hrank
      rw [hdata, Option.some_or, Option.some_or]
  simp only [CommandLine.settings, Settings.withConfig, hcolor]
  rw [show (Settings.ofCommandLine line).dataPath = line.data from rfl, hpath]

end decides

end DatasetSource

/-! ### Runs -/

open ObservableFiles (view)

/-- **The dataset of a listing is the one that the first source names.**  An accepted command line
that asks for a listing, over a sound configuration, comes to what it is of the dataset at the path
that the first source names: the option of the innermost command that has it, or else the variable,
the configuration, an absolute directory for data or the home directory.  What the later sources
name makes no difference: with another value of the variable, another path in the configuration and
another directory for data the run is the same, as long as the sources up to the first one name what
they named and the same is found at the path. -/
theorem listing_by_deciding_source {σ : Type} [ObservableFiles σ] {e : Environment}
    {words : List String} {line : CommandLine} {r : ListingRequest} {s : σ}
    (hread : CommandLine.read e words = .ok line) (hlists : line.Lists r)
    (hconfig : (view s).configFault? e.configPath = none) :
    ∃ levels source p, CommandLevel.read e .root .start words = .ok levels ∧
      DatasetSource.Decides levels e (view s) source p ∧
      (∀ above level below file, levels = above ++ level :: below →
        level.given.lookup .data = some file →
        (∀ inner ∈ below, inner.given.lookup .data = none) → source = .option ∧ p = ⟨file⟩) ∧
      (∃ events, (runProcess e words : StateM σ ProcessResult).run s =
        (.ofOutcome e line
          (line.listing (line.settings e (view s)) ((view s).dataset p), events), s)) ∧
      ∀ (data dataHome : Option String) (s' : σ), data ≠ some "" →
        let e' : Environment := { e with data, dataHome }
        let document := (view s).document e.configPath
        (view s').configFault? e.configPath = none →
        (∃ dataPath, (view s').document e.configPath =
          { document with config := { document.config with dataPath } }) →
        SameAt p s s' →
        (∀ other : DatasetSource, other.rank ≤ source.rank →
          other.path? levels e' (view s') = other.path? levels e (view s)) →
        (runProcess e' words : StateM σ ProcessResult).run s' =
          (((runProcess e words : StateM σ ProcessResult).run s).1, s') := by
  obtain ⟨levels, hlevels, hline⟩ := CommandLine.read_eq_ok_iff.mp hread
  have hne := CommandLevel.ne_nil_of_read hlevels
  obtain ⟨source, hdecides⟩ :=
    DatasetSource.exists_decides (e := e) (v := view s) hne
  rw [hline] at hdecides
  refine ⟨levels, source, line.datasetPath e (view s), hlevels, hdecides, ?_, ?_, ?_⟩
  · rintro above level below file rfl hfile hbelow
    have hoption : DatasetSource.path? (above ++ level :: below) e (view s) .option =
        some ⟨file⟩ := by
      rw [DatasetSource.path?, CommandLevel.value?_innermost hfile hbelow]
      rfl
    exact hdecides.unique ⟨hoption, fun other hother => absurd hother (Nat.not_lt_zero _)⟩
  · obtain ⟨events, hrun⟩ := Action.gives_listing s hlists hconfig []
    exact ⟨events, run_runProcess hread hrun⟩
  · rintro data dataHome s' hdata e' document hconfig' ⟨dataPath, hdocument⟩ hsame hagree
    have hline' : CommandLevel.commandLine e' levels = line :=
      (hdecides.commandLine_eq hne hagree).trans hline
    have hread' : CommandLine.read e' words = .ok line :=
      CommandLine.read_eq_ok_iff.mpr
        ⟨levels, CommandLevel.read_of_environment hlevels hdata, hline'⟩
    have hpath := (hdecides.of_agree hagree).eq_datasetPath hne
    rw [hline'] at hpath
    have hsettings : line.settings e' (view s') = line.settings e (view s) :=
      hdecides.settings_eq hne hline hagree (congrArg (·.config.color) hdocument)
    have hsound : (view s').configFault? e'.configPath = none := hconfig'
    obtain ⟨out, hrun, hrun'⟩ := Action.alike_run hlists hconfig hsound
      (congrArg (·.version) hdocument) hsettings hpath hsame []
    rw [run_runProcess hread hrun, run_runProcess hread' hrun']
    rfl

/-- An option in front of the command decides, although the variable is seen behind it.  Without the
variable, with another configuration and with a relative directory for data the run is the same. -/
theorem listing_by_deciding_source_option :
    let d : Dataset := ⟨[⟨1, 0, "alice", .user⟩], []⟩
    let files (dataPath : Path) : FileTree :=
      (FileTree.empty.set ["work", "c.toml"] (some (.file (Config.text ⟨some dataPath, none⟩)))).set
        ["work", "b.json"] (some (.file d.text))
    let e : Environment := ⟨some "c.toml", some "a.json", none, some "/data", "home", none⟩
    let e' : Environment := { e with data := none, dataHome := some "data" }
    let words := ["--data", "b.json", "users", "--json"]
    let first := (runProcess e words : StateM FileTree ProcessResult).run (files ⟨"x.json"⟩)
    first.1.status = 0 ∧ first.1.output = User.listingJson d.users ++ "\n" ∧
      (runProcess e' words : StateM FileTree ProcessResult).run (files ⟨"y.json"⟩) =
        (first.1, files ⟨"y.json"⟩) := by
  intro d files e e' words first
  let line : CommandLine :=
    ⟨false, false, true, false, some ⟨"b.json"⟩, some (.users ⟨none, none, none⟩)⟩
  have hread : CommandLine.read e words = .ok line := by
    rfl
  have hconfig : (view (files ⟨"x.json"⟩)).configFault? e.configPath = none := by
    decide +kernel
  obtain ⟨levels, source, p, hlevels, -, hoption, ⟨events, hrun⟩, hsame⟩ :=
    listing_by_deciding_source hread (.inl rfl) hconfig
  obtain rfl : [⟨.root, [(.data, "b.json")]⟩, ⟨.users, [(.json, "")]⟩] = levels :=
    Except.ok.inj (by rw [← hlevels]; rfl)
  obtain ⟨rfl, rfl⟩ := hoption [] _ [_] "b.json" rfl rfl (by simp)
  have hlisting : line.listing (line.settings e (view (files ⟨"x.json"⟩)))
      ((view (files ⟨"x.json"⟩)).dataset ⟨"b.json"⟩) = .ok (User.listingJson d.users ++ "\n") := by
    decide +kernel
  have hfirst : first = (.ofOutcome e line (.ok (User.listingJson d.users ++ "\n"), events),
      files ⟨"x.json"⟩) := by
    rw [← hlisting]
    exact hrun
  refine ⟨by rw [hfirst]; rfl, by rw [hfirst]; rfl, ?_⟩
  refine hsame none (some "data") (files ⟨"y.json"⟩) (by simp) (by decide +kernel)
    ⟨some ⟨"y.json"⟩, by decide +kernel⟩ ⟨by decide +kernel, by decide +kernel⟩ ?_
  intro other hother
  cases other with
  | option => simp only [DatasetSource.path?]
  | environment => exact absurd hother (by decide)
  | configuration => exact absurd hother (by decide)
  | dataHome => exact absurd hother (by decide)
  | home => exact absurd hother (by decide)

end RecordFilter
