import RecordFilter.Proofs.PrintedExpr
import RecordFilter.Store

/-! # Confinement

An extra predicate confines a search to the records that satisfy it: the search answers as if no
other records were stored (`find_some_eq_find_filter`).  The extra predicate stands in front of the
whole filter, so that no `OR` of the filter reaches around it, and pages are cut from the records
that are left.

Sessions are confined to their owner in this way, so that what other users have stored neither
appears in an answer nor moves its pages (`findOwned_isolates`). -/

namespace RecordFilter

/-! ### Confined queries -/

namespace Query

variable {α : Type} [Record α]

/-- The query that asks for those records of another that satisfy a predicate. -/
def confined (extra : Predicate) (q : Query) : Query :=
  { q with predicate := some (q.predicate.elim extra (.joined .and extra)) }

theorem selects_confined (extra : Predicate) (q : Query) (r : α) :
    (q.confined extra).selects r = (extra.matches r && q.selects r) := by
  obtain ⟨_ | p, window⟩ := q
  · exact (Bool.and_true _).symm
  · rfl

/-- What a query returns depends on the selected records only: the window is applied last. -/
theorem run_congr {q q' : Query} {records records' : List α} (hw : q.window = q'.window)
    (hs : records.filter q.selects = records'.filter q'.selects) :
    q.run records = q'.run records' := by
  unfold run
  rw [hw, hs]

theorem run_confined (extra : Predicate) (q : Query) (records : List α) :
    (q.confined extra).run records = q.run (records.filter (extra.matches ·)) := by
  refine run_congr rfl ?_
  rw [List.filter_filter]
  refine List.filter_congr fun r _ => ?_
  rw [selects_confined, Bool.and_comm]

theorem run_all (records : List α) : all.run records = records :=
  List.filter_eq_self.mpr fun _ _ => rfl

theorem run_sublist (q : Query) (records : List α) : (q.run records).Sublist records := by
  have hs : (records.filter q.selects).Sublist records := List.filter_sublist
  unfold run
  cases q.window with
  | none => exact hs
  | some w => exact ((List.take_sublist _ _).trans (List.drop_sublist _ _)).trans hs

/-- The extra predicate has no say in whether the filter compiles, and confines the query if it
does. -/
theorem ofFilter_some {ω : Type} [Operation ω] (registry : Registry ω) (table : FieldTable)
    (filter : Option String) (page : Option Page) (extra : Predicate) :
    ofFilter registry table filter page (some extra) =
      (ofFilter registry table filter page none).map (confined extra) := by
  cases filter with
  | none => rfl
  | some text =>
      rw [ofFilter, ofFilter]
      cases hp : Predicate.ofText registry table text with
      | error err => rfl
      | ok p => rfl

end Query

section find
variable {ω : Type} [Operation ω] {α : Type} [Record α] {registry : Registry ω}
  {filter : Option String} {page : Option Page}

theorem find_some_eq_find_filter (records : List α) (extra : Predicate) :
    find registry records filter page (some extra) =
      find registry (records.filter (extra.matches ·)) filter page none := by
  rw [find, find, Query.ofFilter_some]
  cases Query.ofFilter registry (Record.table α) filter page none with
  | error err => rfl
  | ok q => exact congrArg Except.ok (q.run_confined extra records)

theorem sublist_of_find {records found : List α} {extra : Option Predicate}
    (h : find registry records filter page extra = .ok found) : found.Sublist records := by
  rw [find] at h
  cases hq : Query.ofFilter registry (Record.table α) filter page extra with
  | error err =>
      rw [hq] at h
      cases h
  | ok q =>
      rw [hq] at h
      cases h
      exact q.run_sublist records

end find

/-! ### Owners -/

theorem Jogging.matches_ownedBy (owner : String) (j : Jogging) :
    (ownedBy owner).matches j = decide (j.user = owner) := by
  change (Ord.compare j.user owner == .eq) = _
  rw [Bool.eq_iff_iff, beq_iff_eq, decide_eq_true_iff]
  exact Std.compare_eq_iff_eq

theorem findOwned_eq_find_filter {ω : Type} [Operation ω] {registry : Registry ω}
    {filter : Option String} {page : Option Page} (joggings : List Jogging) (owner : String) :
    findOwned registry joggings owner filter page =
      find registry (joggings.filter (·.user = owner)) filter page none := by
  rw [findOwned, find_some_eq_find_filter]
  simp only [Jogging.matches_ownedBy]

/-- **Owners are isolated from each other.**  A search for the sessions of one user answers, be it
with sessions or with an error, as a search in a store that holds only these, and so do all stores
that agree on them.  Whatever the filter says, it returns sessions of that user, in the order in
which they are stored, and all of them if there is neither a filter nor a page.  Any other extra
predicate confines a search in the same way. -/
theorem findOwned_isolates {ω : Type} [Operation ω] (registry : Registry ω) (owner : String)
    (filter : Option String) (page : Option Page) :
    (∀ joggings : List Jogging, findOwned registry joggings owner filter page =
      find registry (joggings.filter (·.user = owner)) filter page none) ∧
    (∀ joggings found : List Jogging, findOwned registry joggings owner filter page = .ok found →
      found.Sublist (joggings.filter (·.user = owner))) ∧
    (∀ joggings : List Jogging, findOwned registry joggings owner none none =
      .ok (joggings.filter (·.user = owner))) ∧
    (∀ joggings joggings' : List Jogging,
      joggings.filter (·.user = owner) = joggings'.filter (·.user = owner) →
        findOwned registry joggings owner filter page =
          findOwned registry joggings' owner filter page) ∧
    (∀ {α : Type} [Record α] (records : List α) (extra : Predicate),
      find registry records filter page (some extra) =
        find registry (records.filter (extra.matches ·)) filter page none) := by
  refine ⟨fun joggings => findOwned_eq_find_filter joggings owner, ?_, ?_, ?_, ?_⟩
  · intro joggings found h
    rw [findOwned_eq_find_filter] at h
    exact sublist_of_find h
  · intro joggings
    rw [findOwned_eq_find_filter]
    exact congrArg Except.ok (Query.run_all _)
  · intro joggings joggings' h
    rw [findOwned_eq_find_filter, findOwned_eq_find_filter, h]
  · intro α _ records extra
    exact find_some_eq_find_filter records extra

/-- A filter that every session satisfies: the second page of a user holds the same session
whether or not others have stored some before it. -/
theorem findOwned_isolates_page :
    findOwned .standard [⟨1, 0, "bob", ⟨2019, 3, 27, by decide⟩, 1000, ⟨1, 0, 0, 0, by decide⟩,
          "Oslo", none, none⟩,
        ⟨2, 0, "alice", ⟨2019, 3, 27, by decide⟩, 1000, ⟨2, 0, 0, 0, by decide⟩, "Oslo", none, none⟩,
        ⟨3, 0, "alice", ⟨2019, 3, 28, by decide⟩, 9000, ⟨1, 0, 0, 0, by decide⟩, "Oslo", none, none⟩]
      "alice" (some "((distance gt 5000) OR (version eq 0))") (some ⟨1, 1, by decide⟩) =
        .ok [⟨3, 0, "alice", ⟨2019, 3, 28, by decide⟩, 9000, ⟨1, 0, 0, 0, by decide⟩, "Oslo", none,
          none⟩] ∧
    findOwned .standard [
        ⟨2, 0, "alice", ⟨2019, 3, 27, by decide⟩, 1000, ⟨2, 0, 0, 0, by decide⟩, "Oslo", none, none⟩,
        ⟨3, 0, "alice", ⟨2019, 3, 28, by decide⟩, 9000, ⟨1, 0, 0, 0, by decide⟩, "Oslo", none, none⟩]
      "alice" (some "((distance gt 5000) OR (version eq 0))") (some ⟨1, 1, by decide⟩) =
        .ok [⟨3, 0, "alice", ⟨2019, 3, 28, by decide⟩, 9000, ⟨1, 0, 0, 0, by decide⟩, "Oslo", none,
          none⟩] := by
  let e : Expr := .binary .or (.comparison "distance" .gt (.valid (.integer 5000)))
    (.comparison "version" .eq (.valid (.integer 0)))
  have he : e.WellFormed := ⟨⟨by decide +kernel, trivial⟩, ⟨by decide +kernel, trivial⟩⟩
  have ht : e.display = "((distance gt 5000) OR (version eq 0))" := by decide +kernel
  have hp : Predicate.ofText .standard (Record.table Jogging) e.display =
      .ok (.joined .or (.compare "distance" .gt (.integer 5000))
        (.compare "version" .eq (.integer 0))) := by
    rw [Predicate.ofText, parse_display he]
    rfl
  rw [← ht]
  have h := findOwned_isolates .standard "alice" (some e.display) (some ⟨1, 1, by decide⟩)
  refine ⟨?crowded, (h.2.2.2.1 _ _ (by decide +kernel)).trans ?crowded⟩
  rw [h.1, find, Query.ofFilter, hp]
  decide +kernel

end RecordFilter
