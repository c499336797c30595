import RecordFilter.Program
import RecordFilter.Proofs.FileViews

/-! # Actions that only look at files

`action.Gives s r` says that the action comes to the result `r` on files in the state `s`, which
it leaves as it is, and says nothing of the events that it reports.  A step is given with its fault,
if it has one, and with the value that it would hand on, so that `Gives.bind` puts steps together
without looking at which of them fail.

`Alike action action' s s'` says of two actions on two states of the files that they come to the
same result with the same events, whatever these are. -/

namespace RecordFilter

namespace Action

section gives
variable {σ α β ε : Type}

/-- What an action comes to behind the given events on files in a state, and what it leaves. -/
def runFrom (action : Action (StateM σ) α) (events : List Event) (s : σ) :
    (Except Failure α × List Event) × σ :=
  StateT.run ((ExceptT.run action).run events) s

theorem runFrom_bind (action : Action (StateM σ) α) (f : α → Action (StateM σ) β)
    (events : List Event) (s : σ) :
    runFrom (action >>= f) events s =
      match runFrom action events s with
      | ((.ok a, events'), s') => runFrom (f a) events' s'
      | ((.error e, events'), s') => ((.error e, events'), s') := by
  simp only [runFrom, ExceptT.run_bind, StateT.run_bind]
  rcases StateT.run ((ExceptT.run action).run events) s with ⟨⟨_ | a, events'⟩, s'⟩ <;> rfl

theorem runFrom_ofExcept_ok (failure : ε → Failure) (a : α) (events : List Event) (s : σ) :
    runFrom (ofExcept failure (.ok a)) events s = ((.ok a, events), s) := rfl

theorem runFrom_lift {s s' : σ} {part : StateM σ α} {a : α} (h : part.run s = (a, s'))
    (events : List Event) :
    runFrom (monadLift part : Action (StateM σ) α) events s = ((.ok a, events), s') := by
  change (match part.run s with
    | (a, s') => (((.ok a, events), s') : (Except Failure α × List Event) × σ)) = _
  rw [h]

theorem runFrom_attempt (failure : ε → Failure) (part : ExceptT ε (StateM σ) α)
    (events : List Event) (s : σ) :
    runFrom (attempt failure part) events s =
      (((StateT.run part.run s).1.mapError failure, events), (StateT.run part.run s).2) := by
  change (match StateT.run part.run s with
    | (r, s') => runFrom (ofExcept failure r) events s') = _
  rcases StateT.run part.run s with ⟨_ | _, s'⟩ <;> rfl

/-- On files in the state `s` the action comes to the result, and leaves them as they are. -/
def Gives (action : Action (StateM σ) α) (s : σ) (r : Except Failure α) : Prop :=
  ∀ events, ∃ events', runFrom action events s = ((r, events'), s)

theorem gives_pure (s : σ) (a : α) : Gives (pure a) s (.ok a) :=
  fun events => ⟨events, rfl⟩

theorem gives_report (s : σ) (events : List Event) : Gives (report events) s (.ok ()) :=
  fun before => ⟨before ++ events, rfl⟩

/-- A step that nothing blocks hands its value on to the next one. -/
theorem Gives.bind {s : σ} {action : Action (StateM σ) α} {f : α → Action (StateM σ) β}
    {fault : Option Failure} {a : α} {r : Except Failure β}
    (h : action.Gives s (blockedBy fault (.ok a))) (hf : (f a).Gives s r) :
    (action >>= f).Gives s (blockedBy fault r) := by
  intro events
  obtain ⟨events₁, h₁⟩ := h events
  rw [runFrom_bind, h₁]
  cases fault with
  | some e => exact ⟨events₁, rfl⟩
  | none => exact hf events₁

theorem Gives.bind_ok {s : σ} {action : Action (StateM σ) α} {f : α → Action (StateM σ) β}
    {a : α} {r : Except Failure β} (h : action.Gives s (.ok a)) (hf : (f a).Gives s r) :
    (action >>= f).Gives s r := by
  have hfree : action.Gives s (blockedBy none (.ok a)) := h
  exact hfree.bind hf

/-- A step that comes to a value hands it on to the next one, and otherwise fails. -/
theorem Gives.andThen {s : σ} {action : Action (StateM σ) α} {f : α → Action (StateM σ) β}
    {r : Except Failure α} {g : α → Except Failure β} (h : action.Gives s r)
    (hf : ∀ a, (f a).Gives s (g a)) : (action >>= f).Gives s (r >>= g) := by
  intro events
  obtain ⟨events₁, h₁⟩ := h events
  rw [runFrom_bind, h₁]
  cases r with
  | error e => exact ⟨events₁, rfl⟩
  | ok a => exact hf a events₁

theorem gives_mapError (failure : ε → Failure) (s : σ) (r : Except ε α) :
    Gives (ofExcept failure r) s (r.mapError failure) := by
  intro events
  cases r with
  | error e => exact ⟨events, rfl⟩
  | ok a => exact ⟨events, rfl⟩

theorem gives_ofExcept (failure : ε → Failure) (s : σ) {r : Except ε α} {fault : Option ε} {a : α}
    (h : r = blockedBy fault (.ok a)) :
    Gives (ofExcept failure r) s (blockedBy (fault.map failure) (.ok a)) := by
  rw [h, ← mapError_blockedBy]
  exact gives_mapError failure s _

theorem gives_lift {s : σ} {part : StateM σ α} {a : α} (h : part.run s = (a, s)) :
    Gives (monadLift part) s (.ok a) :=
  fun events => ⟨events, runFrom_lift h events⟩

theorem gives_attempt (failure : ε → Failure) {s : σ} {part : ExceptT ε (StateM σ) α}
    {r : Except ε α} (h : StateT.run part.run s = (r, s)) :
    Gives (attempt failure part) s (r.mapError failure) := by
  intro events
  rw [runFrom_attempt, h]
  exact ⟨events, rfl⟩

end gives

section alike
variable {σ α β ε : Type}

/-- On files in two states the two actions come to the same result with the same events, and leave
the files as they are. -/
def Alike (action action' : Action (StateM σ) α) (s s' : σ) : Prop :=
  ∀ events, ∃ out, runFrom action events s = (out, s) ∧ runFrom action' events s' = (out, s')

variable {s s' : σ}

theorem alike_pure (a : α) : Alike (pure a) (pure a) s s' :=
  fun events => ⟨(.ok a, events), rfl, rfl⟩

theorem alike_report (events : List Event) : Alike (report events) (report events) s s' :=
  fun before => ⟨(.ok (), before ++ events), rfl, rfl⟩

theorem alike_ofExcept (failure : ε → Failure) (r : Except ε α) :
    Alike (ofExcept failure r) (ofExcept failure r) s s' := by
  intro events
  cases r with
  | error e => exact ⟨(.error (failure e), events), rfl, rfl⟩
  | ok a => exact ⟨(.ok a, events), rfl, rfl⟩

theorem alike_lift {part part' : StateM σ α} {a : α} (h : part.run s = (a, s))
    (h' : part'.run s' = (a, s')) : Alike (monadLift part) (monadLift part') s s' :=
  fun events => ⟨(.ok a, events), runFrom_lift h events, runFrom_lift h' events⟩

theorem alike_attempt (failure : ε → Failure) {part part' : ExceptT ε (StateM σ) α}
    {r : Except ε α} (h : StateT.run part.run s = (r, s)) (h' : StateT.run part'.run s' = (r, s')) :
    Alike (attempt failure part) (attempt failure part') s s' := by
  intro events
  rw [runFrom_attempt, runFrom_attempt, h, h']
  exact ⟨(r.mapError failure, events), rfl, rfl⟩

theorem Alike.bind {action action' : Action (StateM σ) α} {f f' : α → Action (StateM σ) β}
    (h : Alike action action' s s') (hf : ∀ a, Alike (f a) (f' a) s s') :
    Alike (action >>= f) (action' >>= f') s s' := by
  intro events
  obtain ⟨⟨r, events₁⟩, h₁, h₁'⟩ := h events
  rw [runFrom_bind, runFrom_bind, h₁, h₁']
  cases r with
  | error e => exact ⟨(.error e, events₁), rfl, rfl⟩
  | ok a => exact hf a events₁

/-- The next steps need to be alike only for the value that is handed on to them. -/
theorem Alike.bind_ok {action action' : Action (StateM σ) α} {f f' : α → Action (StateM σ) β}
    {a : α} (h : Alike action action' s s') (ha : action.Gives s (.ok a))
    (hf : Alike (f a) (f' a) s s') : Alike (action >>= f) (action' >>= f') s s' := by
  intro events
  obtain ⟨out, h₁, h₁'⟩ := h events
  obtain ⟨events₁, ha⟩ := ha events
  cases h₁.symm.trans ha
  rw [runFrom_bind, runFrom_bind, h₁, h₁']
  exact hf events₁

end alike

section observed
variable {σ : Type} [ObservableFiles σ] (s : σ)

open ObservableFiles (view)

theorem gives_isPresent (p : Path) :
    Gives (Files.isPresent p) s (.ok ((view s).kind? p).isSome) :=
  (gives_lift (ObservableFiles.kind?_eq p s)).bind_ok (gives_pure s _)

theorem alike_isPresent {s s' : σ} {p : Path} (h : (view s').kind? p = (view s).kind? p) :
    Alike (Files.isPresent p) (Files.isPresent p) s s' :=
  (alike_lift (ObservableFiles.kind?_eq p s) (h ▸ ObservableFiles.kind?_eq p s')).bind
    fun kind => alike_pure kind.isSome

theorem gives_loadConfig (e : Environment) :
    Gives (loadConfig e) s (blockedBy (((view s).configFault? e.configPath).map .config)
      (.ok ((view s).document e.configPath).config)) := by
  have hload := gives_attempt .config (FileView.run_load_config s e.configPath)
  rw [mapError_blockedBy] at hload
  refine hload.bind ?_
  by_cases hnewer : Config.currentVersion < ((view s).document e.configPath).version
  · simp only [hnewer, if_true]
    exact (gives_report s _).bind_ok (gives_pure s _)
  · simp only [hnewer, if_false]
    exact (gives_pure s _).bind_ok (gives_pure s _)

end observed

end Action

end RecordFilter
