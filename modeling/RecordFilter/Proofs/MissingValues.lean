import Mathlib.Data.List.Basic
import Mathlib.Data.List.Forall2
import RecordFilter.Proofs.Pages
import RecordFilter.Proofs.Typing

/-! # Missing values

No comparison holds of a field that a record does not have or whose value is absent, and no
connective turns a condition around.  So a predicate that holds of a record still holds when the
record gets values that it lacked (`holds_of_completed`), which no comparison could have told from
values that do not compare.

`Query.places` are the positions of the records that a query asks for.  Filling in values in a store
only adds to them (`places_sublist`), and the answer without a window is what is stored at them
(`run_eq_filterMap_places`). -/

namespace RecordFilter

/-! ### Completed records -/

/-- The second record has the values of the first one, and perhaps others where the first one lacks
the field or its value is absent. -/
def CompletedBy {α : Type} [Record α] (r r' : α) : Prop :=
  ∀ field, Record.value r field = none ∨ Record.value r field = some .null ∨
    Record.value r' field = Record.value r field

namespace Predicate

/-- A predicate holds of no less when missing and absent values are filled in. -/
theorem holds_of_completed {value value' : String → Option Value} {p : Predicate}
    (hv : ∀ field, value field = none ∨ value field = some .null ∨ value' field = value field)
    (h : p.holds value = true) : p.holds value' = true := by
  induction p with
  | compare field op operand =>
      rw [holds] at h ⊢
      rcases hv field with hnone | hnull | heq
      · rw [hnone] at h
        cases h
      · -- an absent value compares with no operand
        have hc : (some Value.null).bind (·.compare operand) = none := by cases operand <;> rfl
        rw [hnull, hc] at h
        cases h
      · rwa [heq]
  | joined op left right ihl ihr => exact Connective.combine_mono ihl ihr h

theorem matches_of_completedBy {α : Type} [Record α] {r r' : α} {p : Predicate}
    (hr : CompletedBy r r') (h : p.matches r = true) : p.matches r' = true :=
  holds_of_completed hr h

end Predicate

/-- The session with a temperature and a weather condition where it has none. -/
def Jogging.filledIn (j : Jogging) (temperature weather : Option String) : Jogging :=
  { j with
    averageTemperature := j.averageTemperature.or temperature
    weatherCondition := j.weatherCondition.or weather }

theorem Value.ofText?_or (s s' : Option String) :
    ofText? s = .null ∨ ofText? (s.or s') = ofText? s := by
  cases s with
  | none => exact .inl rfl
  | some s => exact .inr rfl

theorem Jogging.completedBy_filledIn (j : Jogging) (temperature weather : Option String) :
    CompletedBy j (j.filledIn temperature weather) := by
  intro field
  change j.value field = none ∨ j.value field = some .null ∨
    (j.filledIn temperature weather).value field = j.value field
  by_cases ht : field = "averageTemperature"
  · subst ht
    have h := Value.ofText?_or j.averageTemperature temperature
    exact .inr (h.imp (congrArg some) (congrArg some))
  by_cases hw : field = "weatherCondition"
  · subst hw
    have h := Value.ofText?_or j.weatherCondition weather
    exact .inr (h.imp (congrArg some) (congrArg some))
  · refine .inr (.inr ?_)
    unfold value
    split <;> first | rfl | contradiction

/-! ### Places in a store -/

theorem filterMap_range_getElem? {α : Type} (l : List α) :
    (List.range l.length).filterMap (l[·]?) = l := by
  induction l with
  | nil => rfl
  | cons a l ih =>
      rw [List.length_cons, List.range_succ_eq_map, List.filterMap_cons, List.filterMap_map]
      exact congrArg (a :: ·) ih

namespace Query
variable {α : Type} [Record α] {q : Query} {records records' : List α}

/-- The positions of the records that a query asks for, counted from 0. -/
def places (q : Query) (records : List α) : List Nat :=
  (List.range records.length).filter fun i => records[i]?.any q.selects

/-- Without a window, a query is answered with what is stored at its places. -/
theorem run_eq_filterMap_places (hw : q.window = none) (records : List α) :
    q.run records = (q.places records).filterMap (records[·]?) := by
  have hat : ∀ i : Nat, records[i]?.filter q.selects =
      if records[i]?.any q.selects then records[i]? else none := by
    intro i
    cases records[i]? with
    | none => rfl
    | some r => rw [Option.filter_some, Option.any_some]
  calc q.run records = records.filter q.selects := by rw [run, hw]
    _ = ((List.range records.length).filterMap (records[·]?)).filter q.selects := by
      rw [filterMap_range_getElem?]
    _ = (List.range records.length).filterMap fun i => records[i]?.filter q.selects :=
      List.filter_filterMap
    _ = (q.places records).filterMap (records[·]?) := by
      rw [places, List.filterMap_filter, funext hat]

theorem selects_of_completedBy {r r' : α} (hr : CompletedBy r r') (h : q.selects r = true) :
    q.selects r' = true := by
  unfold selects at h ⊢
  split at h
  · exact Predicate.matches_of_completedBy hr h
  · rfl

theorem places_sublist (h : List.Forall₂ CompletedBy records records') (q : Query) :
    (q.places records).Sublist (q.places records') := by
  obtain ⟨hl, hget⟩ := List.forall₂_iff_get.mp h
  unfold places
  rw [hl]
  refine List.monotone_filter_right _ fun i hi => ?_
  obtain ⟨r, hr, hs⟩ := (Option.any_eq_true _ _).mp hi
  obtain ⟨hlt, rfl⟩ := List.getElem?_eq_some_iff.mp hr
  have hlt' : i < records'.length := hl ▸ hlt
  refine (Option.any_eq_true _ _).mpr ⟨records'[i], List.getElem?_eq_getElem hlt', ?_⟩
  exact selects_of_completedBy (hget i hlt hlt') hs

end Query

theorem exists_query_of_find {α : Type} [Record α] {registry : Registry} {records found : List α}
    {filter : Option String} {extra : Option Predicate}
    (h : find registry records filter none extra = .ok found) :
    ∃ q : Query, q.window = none ∧
      ∀ records : List α, find registry records filter none extra = .ok (q.run records) := by
  have hpage := Query.ofFilter_page registry (Record.table α) filter none extra
  unfold find at h ⊢
  cases hq : Query.ofFilter registry (Record.table α) filter none extra with
  | error err =>
      rw [hq] at h
      cases h
  | ok q =>
      rw [hq] at hpage
      have hw : q.window = none := congrArg Query.window (Except.ok.inj hpage)
      exact ⟨q, hw, fun _ => rfl⟩

/-- What a store keeps of the results that another store of as many records gives: every predicate
that holds of a record there holds of the record at its place, and the answers without a window are,
by their places, subsequences of those that it gives itself. -/
structure ResultsKept {α : Type} [Record α] (records records' : List α) : Prop where
  length_eq : records.length = records'.length
  matches_at : ∀ (p : Predicate) (i : Nat) (r r' : α), records[i]? = some r →
    records'[i]? = some r' → p.matches r = true → p.matches r' = true
  answers : ∀ q : Query, q.window = none →
    q.run records = (q.places records).filterMap (records[·]?) ∧
      q.run records' = (q.places records').filterMap (records'[·]?) ∧
        (q.places records).Sublist (q.places records')
  searches : ∀ (registry : Registry) (filter : Option String) (extra : Option Predicate)
    (found : List α), find registry records filter none extra = .ok found →
      ∃ q : Query, q.window = none ∧ found = q.run records ∧
        find registry records' filter none extra = .ok (q.run records')

theorem resultsKept_of_completedBy {α : Type} [Record α] {records records' : List α}
    (h : List.Forall₂ CompletedBy records records') : ResultsKept records records' where
  length_eq := h.length_eq
  matches_at p i r r' hr hr' hp := by
    obtain ⟨hlt, rfl⟩ := List.getElem?_eq_some_iff.mp hr
    obtain ⟨hlt', rfl⟩ := List.getElem?_eq_some_iff.mp hr'
    have hc : CompletedBy records[i] records'[i] := (List.forall₂_iff_get.mp h).2 i hlt hlt'
    exact Predicate.matches_of_completedBy hc hp
  answers q hw :=
    ⟨q.run_eq_filterMap_places hw records, q.run_eq_filterMap_places hw records',
      Query.places_sublist h q⟩
  searches registry filter extra found hf := by
    obtain ⟨q, hw, hq⟩ := exists_query_of_find hf
    refine ⟨q, hw, ?_, hq records'⟩
    rw [hq records] at hf
    exact (Except.ok.inj hf).symm

/-- **Filling in missing values takes no result away.**  When sessions without a temperature or a
weather condition get one, whatever the text, every predicate that held of a session still holds of
it, so that no record is lost from an answer.  The same is true of records of any kind whose
fields change only where they are missing or absent. -/
theorem filling_in_keeps_results :
    (∀ joggings joggings' : List Jogging,
      List.Forall₂ (fun j j' => ∃ temperature weather, j' = j.filledIn temperature weather)
        joggings joggings' → ResultsKept joggings joggings') ∧
    ∀ {α : Type} [Record α] (records records' : List α),
      List.Forall₂ CompletedBy records records' → ResultsKept records records' := by
  refine ⟨fun joggings joggings' h => ?_, fun records records' => resultsKept_of_completedBy⟩
  refine resultsKept_of_completedBy (h.imp ?_)
  rintro j _ ⟨temperature, weather, rfl⟩
  exact j.completedBy_filledIn temperature weather

/-- A session whose weather is filled in joins the others that differ from rain; one whose weather
is known keeps it. -/
theorem filling_in_keeps_results_weather :
    let day : Date := ⟨2019, 3, 27, by decide⟩
    let hour : TimeOfDay := ⟨1, 0, 0, 0, by decide⟩
    let joggings : List Jogging := [⟨1, 0, "alice", day, 1000, hour, "Oslo", none, none⟩,
      ⟨2, 0, "alice", day, 1000, hour, "Oslo", none, some "sunny"⟩]
    let joggings' : List Jogging := [⟨1, 0, "alice", day, 1000, hour, "Oslo", some "7", some "fog"⟩,
      ⟨2, 0, "alice", day, 1000, hour, "Oslo", some "8", some "sunny"⟩]
    let q : Query := ⟨some (.compare "weatherCondition" .ne (.text "rain")), none⟩
    joggings' = [joggings[0].filledIn (some "7") (some "fog"),
      joggings[1].filledIn (some "8") (some "rain")] ∧
    q.places joggings = [1] ∧ q.places joggings' = [0, 1] ∧ ResultsKept joggings joggings' := by
  intro day hour joggings joggings' q
  refine ⟨rfl, by decide, by decide, filling_in_keeps_results.1 _ _ ?_⟩
  exact .cons ⟨some "7", some "fog", rfl⟩ (.cons ⟨some "8", some "rain", rfl⟩ .nil)

end RecordFilter
