import RecordFilter.Program.Process
import RecordFilter.Proofs.Actions

/-! # Runs that list records

What a listing comes to is a matter of the request, of the settings and of the dataset that is found
at one path (`gives_listing`).  So two runs with the same settings that find the same at this path
come to the same, and their events are the same as well (`alike_run`). -/

namespace RecordFilter

/-! ### Listings of a dataset -/

/-- What a request for records comes to, in the order in which its parts are judged. -/
def listed {α : Type} [Record α] (found : Except StorageError Dataset)
    (records : Dataset → List α) (extra : Option Predicate) (print : List α → String)
    (r : ListingRequest) : Except Failure String := do
  let page ← (Page.ofRequest r.page r.perPage).mapError Failure.page
  let d ← found.mapError Failure.dataset
  let shown ← (find .standard (records d) r.filter page extra).mapError Failure.filter
  return print shown

/-- What a command line that asks for a listing comes to. -/
def CommandLine.listing (line : CommandLine) (settings : Settings)
    (found : Except StorageError Dataset) : Except Failure String :=
  match line.command with
  | some (.users r) =>
    listed found Dataset.users none
      (fun us => settings.output (User.listingJson us) (User.listing settings.colors us)) r
  | some (.joggings owner r) =>
    listed found Dataset.joggings (owner.map Jogging.ownedBy)
      (fun js => settings.output (Jogging.listingJson js) (Jogging.listing settings.colors js)) r
  | _ => return ""

/-- Whether a command line asks for a listing. -/
def CommandLine.Lists (line : CommandLine) (r : ListingRequest) : Prop :=
  line.command = some (.users r) ∨ ∃ owner, line.command = some (.joggings owner r)

/-- The settings of a command line over the configuration that is seen. -/
def CommandLine.settings (line : CommandLine) (e : Environment) (v : FileView) : Settings :=
  (Settings.ofCommandLine line).withConfig (v.document e.configPath).config

/-- The path of the dataset that a command line is about: the one that it names, or else the one
that is configured, or else the usual one. -/
def CommandLine.datasetPath (line : CommandLine) (e : Environment) (v : FileView) : Path :=
  (line.data.or (v.document e.configPath).config.dataPath).getD e.dataPath

theorem CommandLine.datasetPath_eq (line : CommandLine) (e : Environment) (v : FileView) :
    line.datasetPath e v = (line.settings e v).dataPath.getD e.dataPath := rfl

/-! ### States that are the same at a path -/

section same
variable {σ : Type} [ObservableFiles σ] {p : Path} {s s' : σ}

open ObservableFiles (view)

/-- What is seen at a path is the same in two states of the files. -/
def SameAt (p : Path) (s s' : σ) : Prop :=
  (view s').kind? p = (view s).kind? p ∧ (view s').readText p = (view s).readText p

theorem SameAt.dataset_eq (h : SameAt p s s') : (view s').dataset p = (view s).dataset p := by
  rw [FileView.dataset, FileView.dataset, h.2]

end same

namespace Action

/-! ### What the parts of a run come to -/

section gives
variable {σ α : Type} (s : σ)

theorem gives_search [Record α] (records : List α) (filter : Option String) (page : Option Page)
    (extra : Option Predicate) :
    Gives (search records filter page extra) s
      ((find .standard records filter page extra).mapError .filter) := by
  have hrest : Gives (do
      let query ← ofExcept .filter (Query.ofFilter .standard (Record.table α) filter page extra)
      let found := query.run records
      report [.running (Record.table α).record query.predicate.isSome query.window,
        .executed records.length found.length]
      return found : Action (StateM σ) (List α)) s
      ((Query.ofFilter .standard (Record.table α) filter page extra).mapError Failure.filter >>=
        fun query => .ok (query.run records)) :=
    (gives_mapError .filter s _).andThen fun query =>
      (gives_report s _).bind_ok (gives_pure s (query.run records))
  have hfind : (find .standard records filter page extra).mapError Failure.filter =
      ((Query.ofFilter .standard (Record.table α) filter page extra).mapError Failure.filter >>=
        fun query => .ok (query.run records)) := by
    rw [find]
    cases Query.ofFilter .standard (Record.table α) filter page extra <;> rfl
  rw [hfind]
  cases filter with
  | none => exact (gives_pure s _).bind_ok hrest
  | some text => exact (gives_report s _).bind_ok hrest

variable [ObservableFiles σ]

open ObservableFiles (view)

theorem gives_resolveSettings (e : Environment) (line : CommandLine) :
    Gives (resolveSettings e line) s (blockedBy (((view s).configFault? e.configPath).map .config)
      (.ok (line.settings e (view s)))) :=
  (gives_loadConfig s e).bind ((gives_report s _).bind_ok (gives_pure s _))

theorem gives_loadDataset (e : Environment) (settings : Settings) :
    Gives (loadDataset e settings) s
      (((view s).dataset (settings.dataPath.getD e.dataPath)).mapError .dataset) := by
  let p := settings.dataPath.getD e.dataPath
  -- The steps behind the reading hand on the dataset that was found.
  have hrest {next : Dataset → Action (StateM σ) Dataset} (hnext : ∀ d, Gives (next d) s (.ok d)) :
      Gives (attempt .dataset (Dataset.loadOrEmpty p) >>= next) s
        (((view s).dataset p).mapError .dataset) := by
    have hload := (gives_attempt .dataset (FileView.run_loadOrEmpty s p)).andThen hnext
    rwa [show (((view s).dataset p).mapError Failure.dataset >>= Except.ok) =
      ((view s).dataset p).mapError Failure.dataset from bind_pure _] at hload
  refine (gives_isPresent s p).bind_ok ?_
  cases ((view s).kind? p).isSome with
  | true => exact hrest fun d => (gives_report s _).bind_ok (gives_pure s d)
  | false => exact (gives_report s _).bind_ok (hrest fun d => gives_pure s d)

theorem gives_listRecords [Record α] (e : Environment) (settings : Settings)
    (records : Dataset → List α) (extra : Option Predicate) (print : List α → String)
    (r : ListingRequest) :
    Gives (listRecords e settings records extra print r) s
      (listed ((view s).dataset (settings.dataPath.getD e.dataPath)) records extra print r) :=
  (gives_mapError .page s _).andThen fun page => (gives_loadDataset s e settings).andThen fun d =>
    (gives_search s (records d) r.filter page extra).andThen fun _ => gives_pure s _

/-- A listing over a sound configuration comes to what it is of the dataset that is found. -/
theorem gives_listing {line : CommandLine} {r : ListingRequest} {e : Environment}
    (hlists : line.Lists r) (hconfig : (view s).configFault? e.configPath = none) :
    Gives (line.run e) s (line.listing (line.settings e (view s))
      ((view s).dataset (line.datasetPath e (view s)))) := by
  have hsettings := gives_resolveSettings s e line
  rw [hconfig] at hsettings
  unfold CommandLine.run CommandLine.listing
  rcases hlists with hcommand | ⟨owner, hcommand⟩
  · rw [hcommand]
    exact hsettings.bind_ok (gives_listRecords s e _ Dataset.users none _ r)
  · rw [hcommand]
    exact hsettings.bind_ok
      (gives_listRecords s e _ Dataset.joggings (owner.map Jogging.ownedBy) _ r)

end gives

/-! ### Runs that come to the same -/

section alike
variable {σ α : Type} {s s' : σ}

theorem alike_search [Record α] (records : List α) (filter : Option String) (page : Option Page)
    (extra : Option Predicate) :
    Alike (search records filter page extra) (search records filter page extra) s s' := by
  have hrest : Alike (do
      let query ← ofExcept .filter (Query.ofFilter .standard (Record.table α) filter page extra)
      let found := query.run records
      report [.running (Record.table α).record query.predicate.isSome query.window,
        .executed records.length found.length]
      return found : Action (StateM σ) (List α)) _ s s' :=
    (alike_ofExcept .filter _).bind fun query =>
      (alike_report _).bind fun _ => alike_pure (query.run records)
  cases filter with
  | none => exact (alike_pure ()).bind fun _ => hrest
  | some text => exact (alike_report _).bind fun _ => hrest

variable [ObservableFiles σ]

open ObservableFiles (view)

theorem alike_loadDataset {e e' : Environment} {settings : Settings}
    (hpath : settings.dataPath.getD e'.dataPath = settings.dataPath.getD e.dataPath)
    (hsame : SameAt (settings.dataPath.getD e.dataPath) s s') :
    Alike (loadDataset e settings) (loadDataset e' settings) s s' := by
  let p := settings.dataPath.getD e.dataPath
  have hrun := FileView.run_loadOrEmpty s' p
  rw [hsame.dataset_eq] at hrun
  have hload := alike_attempt .dataset (FileView.run_loadOrEmpty s p) hrun
  unfold loadDataset
  rw [hpath]
  refine (alike_isPresent hsame.1).bind fun present => ?_
  cases present with
  | true => exact hload.bind fun d => (alike_report _).bind fun _ => alike_pure d
  | false => exact (alike_report _).bind fun _ => hload.bind fun d => alike_pure d

theorem alike_listRecords [Record α] {e e' : Environment} {settings : Settings}
    (hload : Alike (loadDataset e settings) (loadDataset e' settings) s s')
    (records : Dataset → List α) (extra : Option Predicate) (print : List α → String)
    (r : ListingRequest) :
    Alike (listRecords e settings records extra print r)
      (listRecords e' settings records extra print r) s s' :=
  (alike_ofExcept .page _).bind fun page => hload.bind fun d =>
    (alike_search (records d) r.filter page extra).bind fun shown => alike_pure (print shown)

/-- The events of loading a configuration that is sound. -/
def loadingEvents (document : Config.Document) : List Event :=
  if Config.currentVersion < document.version then [.newerConfig document.version] else []

theorem runFrom_loadConfig {e : Environment}
    (hconfig : (view s).configFault? e.configPath = none) (events : List Event) :
    runFrom (loadConfig e) events s =
      ((.ok ((view s).document e.configPath).config,
        events ++ loadingEvents ((view s).document e.configPath)), s) := by
  have hload := FileView.run_load_config s e.configPath
  rw [hconfig] at hload
  unfold loadConfig loadingEvents
  rw [runFrom_bind, runFrom_attempt, hload]
  change runFrom (do
    if Config.currentVersion < ((view s).document e.configPath).version then
      report [.newerConfig ((view s).document e.configPath).version]
    return ((view s).document e.configPath).config) events s = _
  by_cases hnewer : Config.currentVersion < ((view s).document e.configPath).version
  · simp only [hnewer, if_true]
    rfl
  · simp only [hnewer, if_false, List.append_nil]
    rfl

theorem runFrom_resolveSettings {e : Environment} {line : CommandLine}
    (hconfig : (view s).configFault? e.configPath = none) (events : List Event) :
    runFrom (resolveSettings e line) events s =
      ((.ok (line.settings e (view s)),
        events ++ loadingEvents ((view s).document e.configPath) ++
          [.resolved (line.settings e (view s)).dataPath]), s) := by
  unfold resolveSettings
  rw [runFrom_bind, runFrom_loadConfig hconfig]
  rfl

/-- Runs of a listing with the same settings that find the same at the path of the dataset. -/
theorem alike_run {e e' : Environment} {line : CommandLine} {r : ListingRequest}
    (hlists : line.Lists r) (hconfig : (view s).configFault? e.configPath = none)
    (hconfig' : (view s').configFault? e'.configPath = none)
    (hversion : ((view s').document e'.configPath).version =
      ((view s).document e.configPath).version)
    (hsettings : line.settings e' (view s') = line.settings e (view s))
    (hpath : line.datasetPath e' (view s') = line.datasetPath e (view s))
    (hsame : SameAt (line.datasetPath e (view s)) s s') :
    Alike (line.run e) (line.run e') s s' := by
  have hstart : Alike (resolveSettings e line) (resolveSettings e' line) s s' := by
    intro events
    have hevents : loadingEvents ((view s').document e'.configPath) =
        loadingEvents ((view s).document e.configPath) := by
      rw [loadingEvents, loadingEvents, hversion]
    refine ⟨_, runFrom_resolveSettings hconfig events, ?_⟩
    rw [runFrom_resolveSettings hconfig', hevents, hsettings]
  have hgives := gives_resolveSettings s e line
  rw [hconfig] at hgives
  -- the settings name the dataset of both runs, whatever else the environments name
  have hload : Alike (loadDataset e (line.settings e (view s)))
      (loadDataset e' (line.settings e (view s))) s s' := by
    refine alike_loadDataset ?_ hsame
    rwa [CommandLine.datasetPath_eq, CommandLine.datasetPath_eq, hsettings] at hpath
  unfold CommandLine.run
  rcases hlists with hcommand | ⟨owner, hcommand⟩
  · rw [hcommand]
    exact hstart.bind_ok hgives (alike_listRecords hload Dataset.users none _ r)
  · rw [hcommand]
    exact hstart.bind_ok hgives
      (alike_listRecords hload Dataset.joggings (owner.map Jogging.ownedBy) _ r)

end alike

end Action

/-! ### Processes -/

theorem run_runProcess {σ : Type} [ObservableFiles σ] {e : Environment} {words : List String}
    {line : CommandLine} {s s' : σ} {out : Except Failure String × List Event}
    (hread : CommandLine.read e words = .ok line)
    (h : Action.runFrom (line.run e) [] s = (out, s')) :
    (runProcess e words : StateM σ ProcessResult).run s = (.ofOutcome e line out, s') := by
  unfold runProcess
  rw [hread]
  change (match Action.runFrom (line.run e) [] s with
    | (outcome, s') => (ProcessResult.ofOutcome e line outcome, s')) = _
  rw [h]

end RecordFilter
