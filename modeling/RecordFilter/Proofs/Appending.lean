import RecordFilter.Store

/-! # Answers while records are added

New records stand behind all others, and a query keeps the order of the store and cuts its window
last.  So the answer to a query never loses or moves a record: what new records bring is put behind
it, as far as the window has room (`Window.slice_append`, `Query.run_append`).

A session is any sequence of pushes and queries.  Its queries leave the store as it is, whence it
ends with the records that it started with and those that were pushed (`records_session`), and each
query is answered from those that were there at its turn (`answer_session`). -/

namespace RecordFilter

/-! ### Windows and queries -/

theorem Window.slice_append {α : Type} (w : Window) (l m : List α) :
    w.slice (l ++ m) =
      w.slice l ++ (m.drop (w.offset - l.length)).take (w.limit - (w.slice l).length) := by
  have hroom : w.limit - (l.drop w.offset).length = w.limit - (w.slice l).length := by
    unfold slice
    rw [List.length_take]
    omega
  rw [← hroom]
  unfold slice
  rw [List.drop_append, List.take_append]

namespace Query
variable {α : Type} [Record α]

/-- What an answer gains by records that are put behind the others: some of those that the query
asks for, in their order, namely all of them if it has no window and none if its window is full. -/
theorem run_append (q : Query) (records pushed : List α) :
    ∃ added, q.run (records ++ pushed) = q.run records ++ added ∧
      added.Sublist (pushed.filter q.selects) ∧
      (q.window = none → added = pushed.filter q.selects) ∧
      ∀ w, q.window = some w → (q.run records).length = w.limit → added = [] := by
  unfold run
  rw [List.filter_append]
  cases q.window with
  | none => exact ⟨pushed.filter q.selects, rfl, .refl _, fun _ => rfl, fun w hw => nomatch hw⟩
  | some w =>
      refine ⟨_, w.slice_append _ _, ?_, nofun, ?_⟩
      · exact (List.take_sublist _ _).trans (List.drop_sublist _ _)
      · intro w' hw hfull
        obtain rfl : w = w' := Option.some.inj hw
        change (w.slice (records.filter q.selects)).length = w.limit at hfull
        rw [hfull, Nat.sub_self, List.take_zero]

end Query

/-! ### Sessions -/

namespace Store

/-- What a session can ask of a store. -/
inductive Request (α : Type) where
  | push (record : α)
  | execute (query : Query)

/-- The record that a request adds. -/
def Request.pushed? {α : Type} : Request α → Option α
  | .push record => some record
  | .execute _ => none

/-- The records that requests add, in their order. -/
def pushedIn {α : Type} (requests : List (Request α)) : List α :=
  requests.filterMap Request.pushed?

variable {α : Type} [Record α]

/-- Carries out a request. Only queries are answered with records. -/
def serve : Request α → StateM (Store α) (List α)
  | .push record => do
    push record
    return []
  | .execute query => execute query

/-- Carries out requests in turn, each with its answer. -/
def session (requests : List (Request α)) : StateM (Store α) (List (List α)) :=
  requests.mapM serve

theorem run_execute (q : Query) (s : Store α) : (execute q).run s = (q.run s.records, s) := rfl

theorem run_session_cons (r : Request α) (requests : List (Request α)) (s : Store α) :
    (session (r :: requests)).run s =
      (((serve r).run s).1 :: ((session requests).run ((serve r).run s).2).1,
        ((session requests).run ((serve r).run s).2).2) := by
  rw [session, List.mapM_cons]
  rfl

theorem records_serve (r : Request α) (s : Store α) :
    ((serve r).run s).2.records = s.records ++ r.pushed?.toList := by
  cases r with
  | push record => rfl
  | execute q => exact (List.append_nil s.records).symm

omit [Record α] in
theorem pushedIn_cons (r : Request α) (requests : List (Request α)) :
    pushedIn (r :: requests) = r.pushed?.toList ++ pushedIn requests := by
  unfold pushedIn
  rw [List.filterMap_cons]
  cases r.pushed? <;> rfl

theorem records_session (requests : List (Request α)) (s : Store α) :
    ((session requests).run s).2.records = s.records ++ pushedIn requests := by
  induction requests generalizing s with
  | nil => exact (List.append_nil s.records).symm
  | cons r requests ih =>
      rw [run_session_cons, ih, records_serve, pushedIn_cons, List.append_assoc]

/-- A query in a session is answered from the first records and those pushed before its turn. -/
theorem answer_session {requests : List (Request α)} {i : Nat} {q : Query}
    (h : requests[i]? = some (.execute q)) (s : Store α) :
    ((session requests).run s).1[i]? = some (q.run (s.records ++ pushedIn (requests.take i))) := by
  induction requests generalizing i s with
  | nil => cases h
  | cons r requests ih =>
      rw [run_session_cons]
      cases i with
      | zero =>
          obtain rfl : r = .execute q := Option.some.inj h
          rw [List.take_zero, pushedIn, List.filterMap_nil, List.append_nil]
          rfl
      | succ i =>
          rw [List.getElem?_cons_succ] at h ⊢
          rw [ih h, records_serve, List.take_succ_cons, pushedIn_cons, List.append_assoc]

theorem answer_prefix_answer {requests : List (Request α)} {i j : Nat} {q : Query} (hij : i ≤ j)
    (hi : requests[i]? = some (.execute q)) (hj : requests[j]? = some (.execute q)) (s : Store α) :
    ∃ earlier later, ((session requests).run s).1[i]? = some earlier ∧
      ((session requests).run s).1[j]? = some later ∧ earlier <+: later := by
  refine ⟨_, _, answer_session hi s, answer_session hj s, ?_⟩
  obtain ⟨rest, hrest⟩ : requests.take i <+: requests.take j := List.take_prefix_take_left hij
  have hpushed : pushedIn (requests.take j) = pushedIn (requests.take i) ++ pushedIn rest := by
    rw [← hrest, pushedIn, List.filterMap_append]
    rfl
  rw [hpushed, ← List.append_assoc]
  obtain ⟨added, hadded, -⟩ :=
    q.run_append (s.records ++ pushedIn (requests.take i)) (pushedIn rest)
  exact ⟨added, hadded.symm⟩

end Store

/-- **Answers are stable while records are added.**  Whatever is pushed into a store, with any
queries in between, its records stay in front of the pushed ones and no query changes them.  The
answer to a query before is the front of its answer afterwards, behind which stand pushed records
only: those that the query asks for, in the order in which they were pushed, if it has no window.
An answer that has filled its window stays as it is.  So within one session a query that is asked
again gets the answer that it had before, and perhaps more behind it. -/
theorem pushing_extends_answers {α : Type} [Record α] (s : Store α)
    (requests : List (Store.Request α)) :
    ((Store.session requests).run s).2.records = s.records ++ Store.pushedIn requests ∧
    (∀ q : Query, ∃ before after added,
      (Store.execute q).run s = (before, s) ∧
      (Store.execute q).run ((Store.session requests).run s).2 =
        (after, ((Store.session requests).run s).2) ∧
      after = before ++ added ∧ added.Sublist ((Store.pushedIn requests).filter q.selects) ∧
      (q.window = none → after = before ++ (Store.pushedIn requests).filter q.selects) ∧
      ∀ w, q.window = some w → before.length = w.limit → after = before) ∧
    ∀ (q : Query) (i j : Nat), i ≤ j → requests[i]? = some (.execute q) →
      requests[j]? = some (.execute q) → ∃ earlier later,
        ((Store.session requests).run s).1[i]? = some earlier ∧
          ((Store.session requests).run s).1[j]? = some later ∧ earlier <+: later := by
  have hrecords := Store.records_session requests s
  refine ⟨hrecords, fun q => ?_, fun q i j hij hi hj => Store.answer_prefix_answer hij hi hj s⟩
  obtain ⟨added, hrun, hsub, hall, hfull⟩ := q.run_append s.records (Store.pushedIn requests)
  refine ⟨q.run s.records, q.run s.records ++ added, added, Store.run_execute q s, ?_, rfl, hsub,
    fun hw => by rw [hall hw], fun w hw hl => by rw [hfull w hw hl, List.append_nil]⟩
  rw [Store.run_execute, hrecords, hrun]

/-- A window that reaches beyond the only account is filled by two new ones, and a window that is
full stays as it is. -/
theorem pushing_extends_answers_window :
    let alice : User := ⟨1, 0, "alice", .admin⟩
    let bob : User := ⟨2, 0, "bob", .user⟩
    let carol : User := ⟨3, 0, "carol", .user⟩
    let second : Query := ⟨none, some ⟨1, 2⟩⟩
    let first : Query := ⟨none, some ⟨0, 1⟩⟩
    let requests : List (Store.Request User) := [.push bob, .execute second, .push carol]
    ((Store.session requests).run ⟨[alice]⟩).2 = ⟨[alice, bob, carol]⟩ ∧
    ((Store.session requests).run ⟨[alice]⟩).1[1]? = some [bob] ∧
    (Store.execute second).run ⟨[alice, bob, carol]⟩ = ([bob, carol], ⟨[alice, bob, carol]⟩) ∧
    (Store.execute first).run ⟨[alice, bob, carol]⟩ = ([alice], ⟨[alice, bob, carol]⟩) := by
  intro alice bob carol second first requests
  have hstore : ((Store.session requests).run ⟨[alice]⟩).2 = ⟨[alice, bob, carol]⟩ := by
    rfl
  obtain ⟨-, hqueries, -⟩ := pushing_extends_answers ⟨[alice]⟩ requests
  refine ⟨hstore, rfl, rfl, ?_⟩
  obtain ⟨before, after, added, hbefore, hafter, -, -, -, hfull⟩ := hqueries first
  obtain rfl : [alice] = before := congrArg Prod.fst hbefore
  -- The window has room for one account, and there is one already.
  obtain rfl : after = [alice] := hfull ⟨0, 1⟩ rfl rfl
  rw [← hstore]
  exact hafter

end RecordFilter
