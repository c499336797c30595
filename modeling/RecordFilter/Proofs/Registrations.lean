import Mathlib.Data.List.Induction
import RecordFilter.Proofs.Compilation
import RecordFilter.Record

/-! # Registrations

A registry is put together by registering operations one after another.  An operation is registered
under a comparator, its key, and builds the predicates of a comparator, which may be another one.
All that a registry keeps of its history is the last registration under each key
(`meaning_ofRegistrations`).  So compiling turns each comparison of an expression into what the last
operation under its comparator builds (`outcome_iff_compile`, by induction on the expression), and
two histories with the same last registrations cannot be told apart, neither by what they compile
nor by how they are listed (`compile_by_last_registrations`). -/

namespace RecordFilter

/-- An operation with the comparator that it is registered under and the one whose predicates it
builds. -/
structure Registration where
  key : Comparator
  builder : Comparator
  deriving DecidableEq

namespace Registry

/-- The registry after the registrations, in their order. -/
def ofRegistrations (entries : List Registration) : Registry :=
  entries.foldl (fun r entry => r.register entry.key entry.builder) .empty

theorem meaning_ofRegistrations_concat (entries : List Registration) (entry : Registration)
    (op : Comparator) : (ofRegistrations (entries ++ [entry])).meaning op =
      if op = entry.key then some entry.builder else (ofRegistrations entries).meaning op := by
  rw [ofRegistrations, List.foldl_append]
  rfl

theorem register_comm (r : Registry) {a b : Registration} (h : a.key ≠ b.key) :
    (r.register a.key a.builder).register b.key b.builder =
      (r.register b.key b.builder).register a.key a.builder := by
  simp only [register, mk.injEq]
  funext op
  by_cases ha : op = a.key
  · have hb : op ≠ b.key := fun hb => h (ha.symm.trans hb)
    rw [if_neg hb, if_pos ha, if_pos ha]
  · rw [if_neg ha, if_neg ha]

end Registry

/-- `LastUnder entries op builder`: the last of the registrations under `op` builds the predicates
of `builder`. -/
def LastUnder (entries : List Registration) (op builder : Comparator) : Prop :=
  ∃ before after, entries = before ++ ⟨op, builder⟩ :: after ∧ ∀ entry ∈ after, entry.key ≠ op

/-- A further registration is the last one under its key, and changes nothing under the others. -/
theorem lastUnder_concat_iff {entries : List Registration} {entry : Registration}
    {op builder : Comparator} :
    LastUnder (entries ++ [entry]) op builder ↔
      if op = entry.key then builder = entry.builder else LastUnder entries op builder := by
  constructor
  · rintro ⟨before, after, heq, hafter⟩
    rcases List.eq_nil_or_concat after with rfl | ⟨others, final, rfl⟩
    · obtain ⟨-, heq⟩ := List.append_inj' heq rfl
      obtain rfl := List.singleton_inj.mp heq
      simp
    · rw [List.concat_eq_append, ← List.cons_append, ← List.append_assoc] at heq
      obtain ⟨hentries, hfinal⟩ := List.append_inj' heq rfl
      obtain rfl := List.singleton_inj.mp hfinal
      have hkey : op ≠ entry.key := fun h => hafter entry (by simp) h.symm
      rw [if_neg hkey]
      exact ⟨before, others, hentries, fun o ho => hafter o (by simp [ho])⟩
  · split
    · next hkey =>
        rintro rfl
        exact ⟨entries, [], by rw [hkey], by simp⟩
    · next hkey =>
        rintro ⟨before, after, rfl, hafter⟩
        refine ⟨before, after ++ [entry], by simp, fun o ho => ?_⟩
        rcases List.mem_append.mp ho with ho | ho
        · exact hafter o ho
        · obtain rfl := List.mem_singleton.mp ho
          exact fun h => hkey h.symm

/-- The comparator that each key stands for is that of the last registration under it. -/
theorem meaning_ofRegistrations (entries : List Registration) (op builder : Comparator) :
    (Registry.ofRegistrations entries).meaning op = some builder ↔
      LastUnder entries op builder := by
  induction entries using List.reverseRecOn with
  | nil =>
      constructor
      · intro h
        cases h
      · rintro ⟨before, after, h, -⟩
        simp at h
  | append_singleton entries entry ih =>
      rw [Registry.meaning_ofRegistrations_concat, lastUnder_concat_iff, ← ih]
      split
      · rw [Option.some_inj, eq_comm]
      · rfl

theorem meaning_ofRegistrations_eq_none_iff (entries : List Registration) (op : Comparator) :
    (Registry.ofRegistrations entries).meaning op = none ↔ ∀ entry ∈ entries, entry.key ≠ op := by
  induction entries using List.reverseRecOn with
  | nil => simp [Registry.ofRegistrations, Registry.empty]
  | append_singleton entries entry ih =>
      rw [Registry.meaning_ofRegistrations_concat]
      simp only [List.forall_mem_append, List.forall_mem_singleton, ← ih]
      split
      · next h => simp [h]
      · next h => simp [Ne.symm h]

theorem ofRegistrations_congr {entries entries' : List Registration}
    (h : ∀ op builder, LastUnder entries op builder ↔ LastUnder entries' op builder) :
    Registry.ofRegistrations entries = Registry.ofRegistrations entries' := by
  have hm : (Registry.ofRegistrations entries).meaning =
      (Registry.ofRegistrations entries').meaning := by
    funext op
    refine Option.ext fun builder => ?_
    rw [meaning_ofRegistrations, meaning_ofRegistrations, h]
  cases hr : Registry.ofRegistrations entries
  cases hr' : Registry.ofRegistrations entries'
  rw [hr, hr'] at hm
  exact congrArg Registry.mk hm

/-! ### What an expression compiles to -/

/-- `e.Outcome entries table r`: the expression comes to `r` if each of its comparisons is left to
the last operation that is registered under its comparator, in reading order and up to the first
that fails. -/
inductive Expr.Outcome (entries : List Registration) (table : FieldTable) :
    Expr → Except FilterError Predicate → Prop
  | invalid (field : String) (op : Comparator) (text : String) (err : FilterError) :
      Outcome entries table (.comparison field op (.invalid text err)) (.error err)
  | unregistered (field : String) {op : Comparator} (l : Literal)
      (h : ∀ entry ∈ entries, entry.key ≠ op) :
      Outcome entries table (.comparison field op (.valid l)) (.error (.unsupportedComparator op))
  | registered (field : String) {op builder : Comparator} (l : Literal)
      (h : LastUnder entries op builder) :
      Outcome entries table (.comparison field op (.valid l)) (table.comparison field builder l)
  | joined (op : Connective) {left right : Expr} {p q : Predicate}
      (hl : Outcome entries table left (.ok p)) (hr : Outcome entries table right (.ok q)) :
      Outcome entries table (.binary op left right) (.ok (.joined op p q))
  | left (op : Connective) {left : Expr} (right : Expr) {err : FilterError}
      (h : Outcome entries table left (.error err)) :
      Outcome entries table (.binary op left right) (.error err)
  | right (op : Connective) {left right : Expr} {p : Predicate} {err : FilterError}
      (hl : Outcome entries table left (.ok p)) (hr : Outcome entries table right (.error err)) :
      Outcome entries table (.binary op left right) (.error err)

section outcome
variable {entries : List Registration} {table : FieldTable}

theorem Expr.Outcome.compile_eq {e : Expr} {r : Except FilterError Predicate}
    (h : e.Outcome entries table r) : e.compile (.ofRegistrations entries) table = r := by
  induction h with
  | invalid field op text err => exact compile_invalid field op text err
  | unregistered field l h =>
      rw [compile_valid, (meaning_ofRegistrations_eq_none_iff entries _).mpr h]
  | registered field l h => rw [compile_valid, (meaning_ofRegistrations entries _ _).mpr h]
  | joined op _ _ ihl ihr => exact compile_binary_eq_ok_iff.mpr ⟨_, _, ihl, ihr, rfl⟩
  | left op right _ ih =>
      rw [Expr.compile, ih]
      rfl
  | right op _ _ ihl ihr =>
      rw [Expr.compile, ihl, ihr]
      rfl

theorem Expr.outcome_compile (e : Expr) :
    e.Outcome entries table (e.compile (.ofRegistrations entries) table) := by
  induction e with
  | comparison field op value =>
      cases value with
      | invalid text err => exact .invalid field op text err
      | valid l =>
          rw [compile_valid]
          cases hm : (Registry.ofRegistrations entries).meaning op with
          | none => exact .unregistered field l ((meaning_ofRegistrations_eq_none_iff _ _).mp hm)
          | some builder => exact .registered field l ((meaning_ofRegistrations _ _ _).mp hm)
  | binary op left right ihl ihr =>
      rw [Expr.compile]
      cases hl : left.compile (.ofRegistrations entries) table with
      | error err =>
          rw [hl] at ihl
          exact .left op right ihl
      | ok p =>
          rw [hl] at ihl
          cases hr : right.compile (.ofRegistrations entries) table with
          | error err =>
              rw [hr] at ihr
              exact .right op ihl ihr
          | ok q =>
              rw [hr] at ihr
              exact .joined op ihl ihr

theorem Expr.outcome_iff_compile {e : Expr} {r : Except FilterError Predicate} :
    e.Outcome entries table r ↔ e.compile (.ofRegistrations entries) table = r :=
  ⟨Outcome.compile_eq, fun h => h ▸ e.outcome_compile⟩

end outcome

/-! ### Histories -/

theorem mem_registered_iff (entries : List Registration) (op : Comparator) :
    op ∈ (Registry.ofRegistrations entries).registered ↔ ∃ entry ∈ entries, entry.key = op := by
  have hall : op ∈ Comparator.all := by cases op <;> decide
  rw [Registry.registered, List.mem_filter, and_iff_right hall, Option.isSome_iff_ne_none, ne_eq,
    meaning_ofRegistrations_eq_none_iff]
  simp

/-- **A registry is its last registrations.**  Compiling leaves each comparison of an expression to
the last operation that is registered under its comparator, and fails at one without such an
operation if its literal has a value; registrations under different keys can change places; two
histories with the same last registrations compile every expression alike and are listed alike; and
a listing names the keys in one order, whatever the order of the registrations. -/
theorem compile_by_last_registrations (entries : List Registration) :
    (∀ table (e : Expr) r,
      e.compile (.ofRegistrations entries) table = r ↔ e.Outcome entries table r) ∧
    (∀ table field op l, (∀ entry ∈ entries, entry.key ≠ op) →
      (Expr.comparison field op (.valid l)).compile (.ofRegistrations entries) table =
          .error (.unsupportedComparator op) ∧
        (FilterError.unsupportedComparator op).message =
          "'" ++ op.keyword ++ "' operation is not supported") ∧
    (∀ before a b after, entries = before ++ a :: b :: after → a.key ≠ b.key →
      Registry.ofRegistrations entries = .ofRegistrations (before ++ b :: a :: after)) ∧
    (∀ entries', (∀ op builder, LastUnder entries op builder ↔ LastUnder entries' op builder) →
      (∀ table (e : Expr), e.compile (.ofRegistrations entries) table =
        e.compile (.ofRegistrations entries') table) ∧
      (Registry.ofRegistrations entries).display = (Registry.ofRegistrations entries').display) ∧
    ∃ keys : List Comparator, keys.Sublist [.eq, .ne, .gt, .lt] ∧
      (∀ op, op ∈ keys ↔ ∃ entry ∈ entries, entry.key = op) ∧
      (Registry.ofRegistrations entries).display =
        "OperationRegistry \x7b operations: [" ++ ", ".intercalate (keys.map Registry.entryName)
          ++ "] \x7d" := by
  refine ⟨fun table e r => Expr.outcome_iff_compile.symm, ?_, ?_, ?_,
    (Registry.ofRegistrations entries).registered, List.filter_sublist, mem_registered_iff entries,
    rfl⟩
  · intro table field op l hop
    exact ⟨(Expr.Outcome.unregistered field l hop).compile_eq, rfl⟩
  · rintro before a b after rfl hkey
    simp only [Registry.ofRegistrations, List.foldl_append, List.foldl_cons,
      Registry.register_comm _ hkey]
  · intro entries' hlast
    rw [ofRegistrations_congr hlast]
    exact ⟨fun _ _ => rfl, rfl⟩

/-- The operation for `gt` that counts is the second one, which builds predicates of `eq`.  The
first one might be left out, or stand behind that for `lt`, and nothing makes up for `ne`. -/
theorem compile_by_last_registrations_gt :
    let entries : List Registration := [⟨.gt, .lt⟩, ⟨.lt, .gt⟩, ⟨.gt, .eq⟩]
    let e (op : Comparator) : Expr := .comparison "ID" op (.valid (.integer 7))
    (e .gt).compile (.ofRegistrations entries) User.table =
        .ok (.compare "id" .eq (.integer 7)) ∧
      (e .gt).compile (.ofRegistrations entries) User.table =
        (e .gt).compile (.ofRegistrations [⟨.lt, .gt⟩, ⟨.gt, .eq⟩]) User.table ∧
      Registry.ofRegistrations entries = .ofRegistrations [⟨.lt, .gt⟩, ⟨.gt, .lt⟩, ⟨.gt, .eq⟩] ∧
      (e .ne).compile (.ofRegistrations entries) User.table =
        .error (.unsupportedComparator .ne) := by
  intro entries e
  obtain ⟨houtcome, hmissing, hswap, hlast, -⟩ := compile_by_last_registrations entries
  have hsame : ∀ op builder, LastUnder entries op builder ↔
      LastUnder [⟨.lt, .gt⟩, ⟨.gt, .eq⟩] op builder := by
    intro op builder
    rw [← meaning_ofRegistrations, ← meaning_ofRegistrations]
    cases op <;> rfl
  have hgt : LastUnder entries .gt .eq := ⟨[⟨.gt, .lt⟩, ⟨.lt, .gt⟩], [], rfl, by simp⟩
  refine ⟨(houtcome _ _ _).mpr (.registered "ID" (.integer 7) hgt), (hlast _ hsame).1 _ _,
    hswap [] _ _ _ rfl (by decide), (hmissing _ _ _ _ (by decide)).1⟩

end RecordFilter
