import RecordFilter.Proofs.Compilation
import RecordFilter.Proofs.ListingRuns

/-! # Runs that only look at files

The commands that list records and the one that shows how a filter is read look at files and change
none.  The configuration comes first, then the request for a page, then the dataset, and the filter
last.  A run that fails does so for the first of these that is at fault (`runProcess_query`), in
whatever way the later ones are at fault as well.

There is one lemma for what each part of a run gives, and `gives_run` puts them together. -/

namespace RecordFilter

/-! ### Faults of a filter -/

/-- Why a text, if it is given, is no filter for the records of a table. -/
def filterFault? (table : FieldTable) (filter : Option String) : Option FilterError :=
  filter.bind fun text => fault? (Predicate.ofText .standard table text)

/-- Why a text cannot be shown as a filter. -/
def previewFault? (filter : String) (kind : Option RecordKind) : Option FilterError :=
  match Expr.parse filter, kind with
  | .error err, _ => some err
  | .ok e, none => e.firstInvalid
  | .ok e, some kind => fault? (e.compile .standard kind.table)

theorem ofFilter_eq_blockedBy (table : FieldTable) (filter : Option String) (page : Option Page)
    (extra : Option Predicate) :
    ∃ q, Query.ofFilter .standard table filter page extra =
      blockedBy (filterFault? table filter) (.ok q) := by
  cases filter with
  | none => exact ⟨_, rfl⟩
  | some text =>
      unfold Query.ofFilter filterFault?
      simp only [Option.bind_some]
      cases Predicate.ofText .standard table text with
      | error err => exact ⟨.all, rfl⟩
      | ok p => cases extra <;> exact ⟨_, rfl⟩

theorem preview_eq_blockedBy (filter : String) (kind : Option RecordKind) :
    ∃ shown, Preview.ofFilter filter kind = blockedBy (previewFault? filter kind) (.ok shown) := by
  unfold Preview.ofFilter previewFault?
  cases hparse : Expr.parse filter with
  | error err => exact ⟨⟨"", none⟩, rfl⟩
  | ok e =>
      cases kind with
      | none =>
          simp only [bind, Except.bind]
          cases e.firstInvalid with
          | none => exact ⟨⟨e.display, none⟩, rfl⟩
          | some err => exact ⟨⟨"", none⟩, rfl⟩
      | some kind =>
          simp only [ofText_of_parse hparse]
          cases e.compile .standard kind.table with
          | error err => exact ⟨⟨"", none⟩, rfl⟩
          | ok p => exact ⟨⟨e.display, some p.display⟩, rfl⟩

theorem listed_eq_blockedBy {α : Type} [Record α] (found : Except StorageError Dataset)
    (records : Dataset → List α) (extra : Option Predicate) (print : List α → String)
    (r : ListingRequest) : ∃ output, listed found records extra print r =
      blockedBy ((fault? (Page.ofRequest r.page r.perPage)).map .page)
        (blockedBy ((fault? found).map .dataset)
          (blockedBy ((filterFault? (Record.table α) r.filter).map .filter) (.ok output))) := by
  have : Nonempty Dataset := ⟨.empty⟩
  obtain ⟨page, hpage⟩ := exists_eq_blockedBy (Page.ofRequest r.page r.perPage)
  obtain ⟨d, hd⟩ := exists_eq_blockedBy found
  obtain ⟨q, hq⟩ := ofFilter_eq_blockedBy (Record.table α) r.filter page extra
  have hfind : (find .standard (records d) r.filter page extra).mapError Failure.filter =
      blockedBy ((filterFault? (Record.table α) r.filter).map .filter)
        (.ok (q.run (records d))) := by
    rw [find, hq]
    cases filterFault? (Record.table α) r.filter <;> rfl
  refine ⟨print (q.run (records d)), ?_⟩
  calc listed found records extra print r
    _ = blockedBy ((fault? (Page.ofRequest r.page r.perPage)).map .page)
          (found.mapError Failure.dataset >>= fun d =>
            (find .standard (records d) r.filter page extra).mapError Failure.filter >>=
              fun shown => .ok (print shown)) := by
      rw [listed, hpage, mapError_blockedBy, bind_blockedBy, ← hpage]
      rfl
    _ = _ := by
      rw [hd, mapError_blockedBy, bind_blockedBy, hfind, bind_blockedBy, ← hd]

/-! ### The parts of a run -/

namespace Action

variable {σ : Type} (s : σ)

theorem gives_showFilter (settings : Settings) (filter : String) (kind : Option RecordKind) :
    ∃ output, Gives (showFilter settings filter kind) s
      (blockedBy ((previewFault? filter kind).map .filter) (.ok output)) := by
  obtain ⟨shown, hshown⟩ := preview_eq_blockedBy filter kind
  have hrest : Gives (do
      let p ← ofExcept .filter (Preview.ofFilter filter kind)
      return settings.output p.json.text (p.text settings.colors) : Action (StateM σ) String) s
      (blockedBy ((previewFault? filter kind).map .filter)
        (.ok (settings.output shown.json.text (shown.text settings.colors)))) :=
    (gives_ofExcept .filter s hshown).bind (gives_pure s _)
  refine ⟨settings.output shown.json.text (shown.text settings.colors),
    (gives_report s _).bind_ok ?_⟩
  cases kind with
  | none => exact (gives_pure s _).bind_ok hrest
  | some kind =>
      cases Expr.parse filter with
      | error err => exact (gives_pure s _).bind_ok hrest
      | ok e => exact (gives_report s _).bind_ok hrest

section observed
variable [ObservableFiles σ]

open ObservableFiles (view)

theorem exists_gives_listRecords {α : Type} [Record α] (e : Environment) (settings : Settings)
    (records : Dataset → List α) (extra : Option Predicate) (print : List α → String)
    (r : ListingRequest) : ∃ output,
    Gives (listRecords e settings records extra print r) s
      (blockedBy ((fault? (Page.ofRequest r.page r.perPage)).map .page)
        (blockedBy (((view s).datasetFault? (settings.dataPath.getD e.dataPath)).map .dataset)
          (blockedBy ((filterFault? (Record.table α) r.filter).map .filter) (.ok output)))) := by
  have hgives := gives_listRecords s e settings records extra print r
  obtain ⟨output, hlisted⟩ := listed_eq_blockedBy
    ((view s).dataset (settings.dataPath.getD e.dataPath)) records extra print r
  rw [hlisted, FileView.fault?_dataset] at hgives
  exact ⟨output, hgives⟩

theorem gives_listUsers (e : Environment) (settings : Settings) (r : ListingRequest) : ∃ output,
    Gives (listUsers e settings r) s
      (blockedBy ((fault? (Page.ofRequest r.page r.perPage)).map .page)
        (blockedBy (((view s).datasetFault? (settings.dataPath.getD e.dataPath)).map .dataset)
          (blockedBy ((filterFault? (Record.table User) r.filter).map .filter) (.ok output)))) :=
  exists_gives_listRecords s e settings Dataset.users none _ r

theorem gives_listJoggings (e : Environment) (settings : Settings) (owner : Option String)
    (r : ListingRequest) : ∃ output,
    Gives (listJoggings e settings owner r) s
      (blockedBy ((fault? (Page.ofRequest r.page r.perPage)).map .page)
        (blockedBy (((view s).datasetFault? (settings.dataPath.getD e.dataPath)).map .dataset)
          (blockedBy ((filterFault? (Record.table Jogging) r.filter).map .filter)
            (.ok output)))) :=
  exists_gives_listRecords s e settings Dataset.joggings (owner.map Jogging.ownedBy) _ r

end observed

end Action

/-! ### Whole runs -/

/-- Whether the command looks at files and changes none. -/
def CommandLine.isQuery (line : CommandLine) : Bool :=
  match line.command with
  | some (.users _) | some (.joggings _ _) | some (.parse _ _) => true
  | _ => false

/-- What can be at fault with a command, in the order in which it is checked. -/
def CommandLine.faults (line : CommandLine) (e : Environment) (v : FileView) :
    List (Option Failure) :=
  let config := (v.configFault? e.configPath).map .config
  let dataset := (v.datasetFault? (line.datasetPath e v)).map .dataset
  let page (r : ListingRequest) := (fault? (Page.ofRequest r.page r.perPage)).map .page
  let filter (table : FieldTable) (r : ListingRequest) :=
    (filterFault? table r.filter).map .filter
  match line.command with
  | some (.users r) => [config, page r, dataset, filter (Record.table User) r]
  | some (.joggings _ r) => [config, page r, dataset, filter (Record.table Jogging) r]
  | some (.parse text kind) => [config, (previewFault? text kind).map .filter]
  | _ => []

/-- The first of the faults of a command. -/
def CommandLine.firstFault? (line : CommandLine) (e : Environment) (v : FileView) :
    Option Failure :=
  (line.faults e v).findSome? id

section faults
variable {line : CommandLine} {e : Environment} {v : FileView}

theorem mem_faults {f : Failure} (h : line.firstFault? e v = some f) :
    some f ∈ line.faults e v := by
  obtain ⟨fault, hmem, hfault⟩ := List.exists_of_findSome?_eq_some h
  exact hfault ▸ hmem

theorem configFault?_of_first {err : ConfigError} (h : line.firstFault? e v = some (.config err)) :
    v.configFault? e.configPath = some err := by
  have hmem := mem_faults h
  unfold CommandLine.faults at hmem
  split at hmem <;> simp [@eq_comm _ (some (Failure.config err))] at hmem <;> exact hmem

theorem datasetFault?_of_first {err : StorageError}
    (h : line.firstFault? e v = some (.dataset err)) :
    v.datasetFault? (line.datasetPath e v) = some err := by
  have hmem := mem_faults h
  unfold CommandLine.faults at hmem
  split at hmem <;> simp [@eq_comm _ (some (Failure.dataset err))] at hmem <;> exact hmem

/-- A filter comes last: nothing else is at fault with a listing whose filter is. -/
theorem filter_last {r : ListingRequest} {err : FilterError} (hlists : line.Lists r)
    (h : line.firstFault? e v = some (.filter err)) :
    v.configFault? e.configPath = none ∧ fault? (Page.ofRequest r.page r.perPage) = none ∧
      v.datasetFault? (line.datasetPath e v) = none := by
  have hfaults : ∃ filter, line.faults e v = [(v.configFault? e.configPath).map .config,
      (fault? (Page.ofRequest r.page r.perPage)).map .page,
      (v.datasetFault? (line.datasetPath e v)).map .dataset, filter] := by
    unfold CommandLine.faults
    rcases hlists with hcommand | ⟨owner, hcommand⟩
    · rw [hcommand]
      exact ⟨_, rfl⟩
    · rw [hcommand]
      exact ⟨_, rfl⟩
  obtain ⟨filter, hfaults⟩ := hfaults
  rw [CommandLine.firstFault?, hfaults] at h
  cases hconfig : v.configFault? e.configPath with
  | some err => rw [hconfig] at h; cases h
  | none =>
      cases hpage : fault? (Page.ofRequest r.page r.perPage) with
      | some err => rw [hconfig, hpage] at h; cases h
      | none =>
          cases hdataset : v.datasetFault? (line.datasetPath e v) with
          | some err => rw [hconfig, hpage, hdataset] at h; cases h
          | none => exact ⟨rfl, rfl, rfl⟩

end faults

section run
variable {σ : Type} [ObservableFiles σ] {line : CommandLine}

open ObservableFiles (view)

theorem gives_run (e : Environment) (hquery : line.isQuery = true) (s : σ) : ∃ output,
    Action.Gives (line.run e) s (blockedBy (line.firstFault? e (view s)) (.ok output)) := by
  have hsettings := Action.gives_resolveSettings s e line
  unfold CommandLine.firstFault? CommandLine.faults CommandLine.run
  unfold CommandLine.isQuery at hquery
  cases hcommand : line.command with
  | none => simp [hcommand] at hquery
  | some command =>
      cases command with
      | config command => simp [hcommand] at hquery
      | completions shell => simp [hcommand] at hquery
      | users r =>
          obtain ⟨output, hrun⟩ := Action.gives_listUsers s e (line.settings e (view s)) r
          simp only [blockedBy_first_cons, blockedBy_first_nil]
          exact ⟨output, hsettings.bind hrun⟩
      | joggings owner r =>
          obtain ⟨output, hrun⟩ := Action.gives_listJoggings s e (line.settings e (view s)) owner r
          simp only [blockedBy_first_cons, blockedBy_first_nil]
          exact ⟨output, hsettings.bind hrun⟩
      | parse filter kind =>
          obtain ⟨output, hrun⟩ := Action.gives_showFilter s (line.settings e (view s)) filter kind
          simp only [blockedBy_first_cons, blockedBy_first_nil]
          exact ⟨output, hsettings.bind hrun⟩

/-- A process whose command only looks at files changes none.  If anything is at fault, it tells of
the first fault alone and gives out nothing; otherwise it succeeds.  A filter is found fault with
only after everything else, and a configuration or a dataset that is not there never is. -/
theorem runProcess_query {e : Environment} {words : List String}
    (hread : CommandLine.read e words = .ok line) (hquery : line.isQuery = true) (s : σ) :
    ∃ output events,
      (line.run e : Action (StateM σ) String).outcome.run s =
        ((blockedBy (line.firstFault? e (view s)) (.ok output), events), s) ∧
      (∃ result, (runProcess e words : StateM σ ProcessResult).run s = (result, s) ∧
        match line.firstFault? e (view s) with
        | some f => result.status = f.exitStatus ∧ result.output = "" ∧
            ∃ log, result.errors = log ++ ProcessResult.failureText line.json f
        | none => result.status = 0 ∧ result.output = output) ∧
      (∀ r err, line.Lists r → line.firstFault? e (view s) = some (.filter err) →
        (view s).configFault? e.configPath = none ∧
          fault? (Page.ofRequest r.page r.perPage) = none ∧
          (view s).datasetFault? (line.datasetPath e (view s)) = none) ∧
      (∀ err, (view s).kind? e.configPath = none →
        line.firstFault? e (view s) ≠ some (.config err)) ∧
      (∀ err, (view s).readText (line.datasetPath e (view s)) = .error .notFound →
        line.firstFault? e (view s) ≠ some (.dataset err)) := by
  obtain ⟨output, hgives⟩ := gives_run e hquery s
  obtain ⟨events, hrun⟩ := hgives []
  refine ⟨output, events, hrun, ⟨_, run_runProcess hread hrun, ?_⟩, fun r err => filter_last,
    ?_, ?_⟩
  · cases line.firstFault? e (view s) with
    | some f => exact ⟨rfl, rfl, _, rfl⟩
    | none => exact ⟨rfl, rfl⟩
  · intro err hmissing hfirst
    have hfault := configFault?_of_first hfirst
    simp [FileView.configFault?, hmissing] at hfault
  · intro err hmissing hfirst
    have hfault := datasetFault?_of_first hfirst
    simp [FileView.datasetFault?, hmissing] at hfault

end run

/-- A page that does not exist is told of before a dataset that is a directory and a filter that
is none. -/
theorem runProcess_query_page :
    let e : Environment := ⟨some "c.toml", some ".", none, none, "home", none⟩
    let line : CommandLine :=
      ⟨false, false, false, false, some ⟨"."⟩, some (.users ⟨some "(", some 0, none⟩)⟩
    let words := ["users", "--filter", "(", "--page", "0"]
    CommandLine.read e words = .ok line ∧
      ((runProcess e words : StateM FileTree ProcessResult).run .empty).1.status = 1 ∧
      ((runProcess e words : StateM FileTree ProcessResult).run .empty).1.output = "" ∧
      ∃ log, ((runProcess e words : StateM FileTree ProcessResult).run .empty).1.errors =
        log ++ "Error: pagination error: Page index should start at 1\n" := by
  intro e line words
  have hread : CommandLine.read e words = .ok line := by
    rfl
  have hfirst : line.firstFault? e (ObservableFiles.view FileTree.empty) =
      some (.page .indexBelowOne) := by
    decide +kernel
  obtain ⟨output, events, -, ⟨result, hrun, hresult⟩, -⟩ :=
    runProcess_query hread (by decide) FileTree.empty
  rw [hfirst] at hresult
  rw [hrun]
  exact ⟨hread, hresult⟩

end RecordFilter
