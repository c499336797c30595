import RecordFilter.Proofs.Confinement

/-! # Pages of an answer

A page of size `n` with the index `i`, counted from 1, holds what stands at the positions from
`(i - 1) * n` up to `i * n` in the answer without a page.  These products may exceed every number
that the program can express.  The number of records to be skipped is then cut off at
`Page.maxOffset`, which no answer is longer than, so that the page is empty as it should be
(`Page.slice_window`).

Hence the pages 1, 2, 3, … of one size put together are the answer itself: the first `m` of them
are its first `m * n` records (`flatMap_pages`).  The main statement is `find_pages_tile`. -/

namespace RecordFilter

/-! ### Requests -/

namespace Page

variable {index size : Option Int64}

theorem ofRequest_eq (h : index ≠ none ∨ size ≠ none) :
    ofRequest index size = (ofNumbers (index.getD 1).toInt (size.getD 10).toInt).map some := by
  cases index with
  | some i => rfl
  | none =>
      cases size with
      | some n => rfl
      | none => simp at h

theorem ofNumbers_eq_ok_iff {i n : Int} {p : Page} :
    ofNumbers i n = .ok p ↔ 1 ≤ i ∧ 1 ≤ n ∧ (p.index : Int) = i - 1 ∧ (p.size : Int) = n := by
  obtain ⟨pi, pn, hp⟩ := p
  unfold ofNumbers
  grind

theorem ofNumbers_eq_indexBelowOne_iff {i n : Int} :
    ofNumbers i n = .error .indexBelowOne ↔ i < 1 := by
  unfold ofNumbers
  grind

theorem ofNumbers_eq_sizeBelowOne_iff {i n : Int} :
    ofNumbers i n = .error .sizeBelowOne ↔ 1 ≤ i ∧ n < 1 := by
  unfold ofNumbers
  grind

theorem ofRequest_eq_ok_iff (h : index ≠ none ∨ size ≠ none) {page : Option Page} :
    ofRequest index size = .ok page ↔ 1 ≤ (index.getD 1).toInt ∧ 1 ≤ (size.getD 10).toInt ∧
      ∃ p, page = some p ∧ (p.index : Int) = (index.getD 1).toInt - 1 ∧
        (p.size : Int) = (size.getD 10).toInt := by
  have hm : ofRequest index size = .ok page ↔
      ∃ p, page = some p ∧ ofNumbers (index.getD 1).toInt (size.getD 10).toInt = .ok p := by
    rw [ofRequest_eq h]
    cases ofNumbers (index.getD 1).toInt (size.getD 10).toInt with
    | error e => simp [Except.map]
    | ok p => simp [Except.map, eq_comm]
  rw [hm]
  simp only [ofNumbers_eq_ok_iff]
  constructor
  · rintro ⟨p, rfl, hi, hn, hp⟩
    exact ⟨hi, hn, p, rfl, hp⟩
  · rintro ⟨hi, hn, p, rfl, hp⟩
    exact ⟨p, rfl, hi, hn, hp⟩

theorem ofRequest_eq_error_iff (h : index ≠ none ∨ size ≠ none) {e : PageError} :
    ofRequest index size = .error e ↔
      ofNumbers (index.getD 1).toInt (size.getD 10).toInt = .error e := by
  rw [ofRequest_eq h]
  cases ofNumbers (index.getD 1).toInt (size.getD 10).toInt <;> simp [Except.map]

theorem ofRequest_eq_some_iff {p : Page} :
    ofRequest index size = .ok (some p) ↔ (index ≠ none ∨ size ≠ none) ∧
      1 ≤ (index.getD 1).toInt ∧ 1 ≤ (size.getD 10).toInt ∧
      (p.index : Int) = (index.getD 1).toInt - 1 ∧ (p.size : Int) = (size.getD 10).toInt := by
  by_cases h : index ≠ none ∨ size ≠ none
  · rw [ofRequest_eq_ok_iff h]
    simp [h]
  · have hn : index = none ∧ size = none := by simpa using h
    obtain ⟨rfl, rfl⟩ := hn
    simp [ofRequest]

/-- The number before an accepted index is not affected by the width of its type. -/
theorem toInt_sub_one {i : Int64} (h : 1 ≤ i.toInt) : (i - 1).toInt = i.toInt - 1 := by
  have hlt := i.toInt_lt
  rw [Int64.toInt_sub, Int64.toInt_one, Int.bmod_eq_of_le]
  · omega
  · omega

theorem ofRequest_some {i : Int64} (hi : 1 ≤ i.toInt) (hn : 1 ≤ (size.getD 10).toInt) :
    ofRequest (some i) size =
      .ok (some ⟨i.toInt.toNat - 1, (size.getD 10).toInt.toNat, by omega⟩) := by
  refine ofRequest_eq_some_iff.mpr ⟨.inl (by simp), hi, hn, ?_, Int.toNat_of_nonneg (by omega)⟩
  change ((i.toInt.toNat - 1 : Nat) : Int) = i.toInt - 1
  omega

theorem positions_of_ofRequest {p : Page} (h : ofRequest index size = .ok (some p)) :
    (((index.getD 1).toInt - 1) * (size.getD 10).toInt).toNat = p.index * p.size ∧
      ((index.getD 1).toInt * (size.getD 10).toInt).toNat = (p.index + 1) * p.size := by
  obtain ⟨-, -, -, hi, hn⟩ := ofRequest_eq_some_iff.mp h
  have hnext : (index.getD 1).toInt = ((p.index + 1 : Nat) : Int) := by omega
  rw [← hi, ← hn, hnext]
  constructor <;> omega

/-! ### Windows -/

section slices
variable {α : Type}

/-- The window of a page holds the records at its positions, also where the offset is cut off. -/
theorem slice_window (p : Page) {all : List α} (h : all.length ≤ maxOffset) :
    p.window.slice all = all.extract (p.index * p.size) ((p.index + 1) * p.size) := by
  have hs : (p.index + 1) * p.size - p.index * p.size = p.size := by
    rw [Nat.add_mul, Nat.one_mul, Nat.add_sub_cancel_left]
  rw [List.extract_eq_take_drop, hs]
  unfold Window.slice window offset
  by_cases hle : p.index * p.size ≤ maxOffset
  · rw [Nat.min_eq_left hle]
  · -- both offsets lie behind the last record
    rw [Nat.min_eq_right (by omega), List.drop_eq_nil_of_le h,
      List.drop_eq_nil_of_le (by omega : all.length ≤ p.index * p.size)]

/-- The first `m` pages of a list are its first `m * n` entries. -/
theorem flatMap_pages (all : List α) (n m : Nat) :
    ((List.range' 1 m).flatMap fun i => all.extract ((i - 1) * n) (i * n)) = all.take (m * n) := by
  induction m with
  | zero => simp
  | succ m ih =>
      have hs : (m + 1) * n - m * n = n := by
        rw [Nat.add_mul, Nat.one_mul, Nat.add_sub_cancel_left]
      rw [List.range'_1_concat, List.flatMap_append, ih, Nat.add_mul, Nat.one_mul, List.take_add]
      simp [Nat.add_comm 1 m, hs]

theorem extract_eq_nil {all : List α} {n m i : Nat} (h : all.length ≤ m * n) (hi : m < i) :
    all.extract ((i - 1) * n) (i * n) = [] := by
  have hle : m * n ≤ (i - 1) * n := Nat.mul_le_mul_right n (by omega)
  rw [List.extract_eq_take_drop, List.drop_eq_nil_of_le (by omega), List.take_nil]

end slices

end Page

/-! ### Searches -/

section find
variable {ω : Type} [Operation ω]

theorem Query.ofFilter_page (registry : Registry ω) (table : FieldTable) (filter : Option String)
    (page : Option Page) (extra : Option Predicate) :
    ofFilter registry table filter page extra =
      (ofFilter registry table filter none extra).map
        fun q => ⟨q.predicate, page.map Page.window⟩ := by
  cases filter with
  | none => rfl
  | some text =>
      rw [ofFilter, ofFilter]
      cases hq : Predicate.ofText registry table text with
      | error e => rfl
      | ok q => cases extra <;> rfl

variable {α : Type} [Record α] {registry : Registry ω} {records : List α} {filter : Option String}
  {extra : Option Predicate}

theorem find_page (p : Page) : find registry records filter (some p) extra =
    (find registry records filter none extra).map p.window.slice := by
  unfold find
  rw [Query.ofFilter_page, Query.ofFilter_page _ _ _ none]
  cases Query.ofFilter registry (Record.table α) filter none extra with
  | error e => rfl
  | ok q => rfl

theorem find_page_eq_extract (hl : records.length ≤ Page.maxOffset) (p : Page) :
    find registry records filter (some p) extra =
      (find registry records filter none extra).map
        fun all => all.extract (p.index * p.size) ((p.index + 1) * p.size) := by
  rw [find_page]
  cases h : find registry records filter none extra with
  | error e => rfl
  | ok all =>
      have hle : all.length ≤ records.length := (sublist_of_find h).length_le
      exact congrArg Except.ok (p.slice_window (hle.trans hl))

end find

/-- **Pages tile the answer.**  A request that names a page or a size is refused exactly if the
index is below one, or else the size is, where 1 and 10 stand for a missing number.  Otherwise the
page has the index and the size that were asked for, and nothing overflows on the way: no 64-bit
number wraps around, and the offset is cut off at the largest one.  For a store of at most
`2 ^ 63 - 1` records, such a page holds the records at the positions from `(i - 1) * n` up to
`i * n` of the answer without a page, with exact products.  Hence the first `m` pages together are
the first `m * n` records of that answer; once this is all of it, every later page is empty. -/
theorem find_pages_tile :
    (∀ index size : Option Int64, index ≠ none ∨ size ≠ none →
      (Page.ofRequest index size = .error .indexBelowOne ↔ (index.getD 1).toInt < 1) ∧
      (Page.ofRequest index size = .error .sizeBelowOne ↔
        1 ≤ (index.getD 1).toInt ∧ (size.getD 10).toInt < 1) ∧
      (∀ page, Page.ofRequest index size = .ok page ↔
        1 ≤ (index.getD 1).toInt ∧ 1 ≤ (size.getD 10).toInt ∧
          ∃ p, page = some p ∧ (p.index : Int) = (index.getD 1).toInt - 1 ∧
            (p.size : Int) = (size.getD 10).toInt) ∧
      ∀ p, Page.ofRequest index size = .ok (some p) →
        (index.getD 1 - 1).toInt = p.index ∧ (size.getD 10).toInt = p.size ∧
          p.offset = min (p.index * p.size) (2 ^ 64 - 1) ∧ p.window = ⟨p.offset, p.size⟩) ∧
    ∀ {ω : Type} [Operation ω] {α : Type} [Record α] (registry : Registry ω) (records : List α)
      (filter : Option String) (extra : Option Predicate), records.length ≤ 2 ^ 63 - 1 →
      (∀ index size p, Page.ofRequest index size = .ok (some p) →
        find registry records filter (some p) extra =
          (find registry records filter none extra).map fun all =>
            all.extract (((index.getD 1).toInt - 1) * (size.getD 10).toInt).toNat
              ((index.getD 1).toInt * (size.getD 10).toInt).toNat) ∧
      ∀ all, find registry records filter none extra = .ok all →
        ∀ size : Option Int64, 1 ≤ (size.getD 10).toInt → ∃ pages : Nat → List α,
          (∀ i : Int64, 1 ≤ i.toInt → ∃ p, Page.ofRequest (some i) size = .ok (some p) ∧
            find registry records filter (some p) extra = .ok (pages i.toInt.toNat)) ∧
          ∀ m, (List.range' 1 m).flatMap pages = all.take (m * (size.getD 10).toInt.toNat) ∧
            (all.length ≤ m * (size.getD 10).toInt.toNat →
              (List.range' 1 m).flatMap pages = all ∧ ∀ i, m < i → pages i = []) := by
  refine ⟨fun index size h => ⟨?_, ?_, fun page => Page.ofRequest_eq_ok_iff h, fun p hp => ?_⟩, ?_⟩
  · rw [Page.ofRequest_eq_error_iff h, Page.ofNumbers_eq_indexBelowOne_iff]
  · rw [Page.ofRequest_eq_error_iff h, Page.ofNumbers_eq_sizeBelowOne_iff]
  · obtain ⟨-, hi, hn, hpi, hpn⟩ := Page.ofRequest_eq_some_iff.mp hp
    exact ⟨by rw [Page.toInt_sub_one hi, hpi], hpn.symm, rfl, rfl⟩
  intro ω _ α _ registry records filter extra hl
  have hmax : records.length ≤ Page.maxOffset := hl.trans (by decide)
  constructor
  · intro index size p hp
    obtain ⟨hfirst, hlast⟩ := Page.positions_of_ofRequest hp
    rw [hfirst, hlast]
    exact find_page_eq_extract hmax p
  · intro all hall size hn
    let n := (size.getD 10).toInt.toNat
    refine ⟨fun i => all.extract ((i - 1) * n) (i * n), fun i hi => ?_, fun m => ⟨?_, fun hm => ?_⟩⟩
    · refine ⟨_, Page.ofRequest_some hi hn, ?_⟩
      have hnext : i.toInt.toNat - 1 + 1 = i.toInt.toNat := by omega
      rw [find_page_eq_extract hmax, hall, hnext]
      rfl
    · exact Page.flatMap_pages all n m
    · refine ⟨?_, fun i hi => Page.extract_eq_nil hm hi⟩
      rw [Page.flatMap_pages, List.take_of_length_le hm]

/-- The least 64-bit index is refused, a short page is the rest of the answer, and a page whose
offset is cut off, because `2 ^ 62 * 8` does not have 64 bits, is empty. -/
theorem find_pages_tile_saturated :
    Page.ofRequest (some Int64.minValue) none = .error .indexBelowOne ∧
    Page.ofRequest (some 2) (some 2) = .ok (some ⟨1, 2, by decide⟩) ∧
    find .standard [⟨1, 0, "alice", .admin⟩, ⟨2, 0, "bob", .user⟩, ⟨3, 0, "carol", .manager⟩,
        ⟨4, 0, "dave", .user⟩] (some "(id gt 1)") (some ⟨1, 2, by decide⟩) none =
          .ok [(⟨4, 0, "dave", .user⟩ : User)] ∧
    Page.ofRequest (some 4611686018427387905) (some 8) =
      .ok (some ⟨4611686018427387904, 8, by decide⟩) ∧
    Page.offset ⟨4611686018427387904, 8, by decide⟩ = 2 ^ 64 - 1 ∧
    find .standard [⟨1, 0, "alice", .admin⟩, ⟨2, 0, "bob", .user⟩, ⟨3, 0, "carol", .manager⟩,
        ⟨4, 0, "dave", .user⟩] (some "(id gt 1)") (some ⟨4611686018427387904, 8, by decide⟩) none =
          .ok ([] : List User) := by
  let users : List User := [⟨1, 0, "alice", .admin⟩, ⟨2, 0, "bob", .user⟩,
    ⟨3, 0, "carol", .manager⟩, ⟨4, 0, "dave", .user⟩]
  let e : Expr := .comparison "id" .gt (.valid (.integer 1))
  have he : e.WellFormed := ⟨by decide +kernel, trivial⟩
  have hall : find .standard users (some e.display) none none =
      .ok [⟨2, 0, "bob", .user⟩, ⟨3, 0, "carol", .manager⟩, ⟨4, 0, "dave", .user⟩] := by
    rw [find, Query.ofFilter, Predicate.ofText, parse_display he]
    rfl
  have ht : e.display = "(id gt 1)" := by decide +kernel
  rw [ht] at hall
  obtain ⟨hr, hf⟩ := find_pages_tile
  have hu := (hf .standard users (some "(id gt 1)") none (by decide)).1
  have h₁ : Page.ofRequest (some 2) (some 2) = .ok (some ⟨1, 2, by decide⟩) :=
    ((hr _ _ (by simp)).2.2.1 _).mpr ⟨by decide, by decide, _, rfl, by decide, by decide⟩
  have h₂ : Page.ofRequest (some 4611686018427387905) (some 8) =
      .ok (some ⟨4611686018427387904, 8, by decide⟩) :=
    ((hr _ _ (by simp)).2.2.1 _).mpr ⟨by decide, by decide, _, rfl, by decide, by decide⟩
  refine ⟨(hr _ _ (by simp)).1.mpr (by decide), h₁, ?_, h₂, ?_, ?_⟩
  · exact (hu _ _ _ h₁).trans (by rw [hall]; rfl)
  · exact ((hr _ _ (by simp)).2.2.2 _ h₂).2.2.1.trans (by decide)
  · refine (hu _ _ _ h₂).trans ?_
    rw [hall]
    exact congrArg Except.ok (List.extract_eq_take_drop.trans (by decide +kernel))

end RecordFilter
