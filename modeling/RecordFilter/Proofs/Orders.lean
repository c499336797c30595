import Mathlib.Data.Int.Order.Basic
import Mathlib.Data.List.Lex
import Mathlib.Order.Compare
import Mathlib.Order.Lattice
import RecordFilter.Token
import RecordFilter.Value

/-! # The orders of values

The values of each kind are ordered as keys in a linear order: a number as an integer, a text as
the bytes of its UTF-8 form, a date as its year, month and day, a time as the seconds since
midnight and the nanoseconds behind them.  For every kind the outcome of a comparison is shown to
be that of the keys (`Ordering.Compares`); for texts this says that the order of code points is
the order of bytes (`compares_utf8`).

`Comparator.relates` is the relation of a comparator on keys, and `accepts_of_compares` reads it
off the outcome. -/

namespace RecordFilter

/-- Whether two keys stand in the relation that a comparator names. -/
def Comparator.relates {κ : Type} [LinearOrder κ] (op : Comparator) (a b : κ) : Bool :=
  match op with
  | .eq => a = b
  | .ne => a ≠ b
  | .gt => b < a
  | .lt => a < b

theorem Comparator.accepts_of_compares {κ : Type} [LinearOrder κ] {o : Ordering} {a b : κ}
    (op : Comparator) (h : o.Compares a b) : op.accepts o = op.relates a b := by
  rw [Bool.eq_iff_iff]
  cases op with
  | eq => simpa [accepts, relates] using h.eq_eq
  | ne => simpa [accepts, relates] using not_congr h.eq_eq
  | gt => simpa [accepts, relates] using h.eq_gt
  | lt => simpa [accepts, relates] using h.eq_lt

/-- A comparison by `<` and `=` has the outcome of the keys that keep both. -/
theorem compares_of_iff {α κ : Type} [LT α] [DecidableLT α] [DecidableEq α] [LinearOrder κ]
    {a b : α} {x y : κ} (hlt : a < b ↔ x < y) (heq : a = b ↔ x = y) :
    (compareOfLessAndEq a b).Compares x y := by
  unfold compareOfLessAndEq
  split
  · next h => exact hlt.mp h
  split
  · next h => exact heq.mp h
  · next h h' => exact lt_of_le_of_ne (not_lt.mp (mt hlt.mpr h)) fun h'' => h' (heq.mpr h''.symm)

theorem compares_int64 (a b : Int64) : (Ord.compare a b).Compares a.toInt b.toInt :=
  compares_of_iff Int64.lt_iff_toInt_lt Int64.toInt_inj.symm

/-! ### Lexicographic keys -/

theorem compares_cons {κ : Type} [LinearOrder κ] {o p : Ordering} {a b : κ} {l m : List κ}
    (h : o.Compares a b) (h' : p.Compares l m) : (o.then p).Compares (a :: l) (b :: m) := by
  cases o with
  | lt => exact List.cons_lt_cons_iff.mpr (.inl h)
  | gt => exact List.cons_lt_cons_iff.mpr (.inl h)
  | eq =>
      obtain rfl : a = b := h
      cases p with
      | lt => exact List.cons_lt_cons_iff.mpr (.inr ⟨rfl, h'⟩)
      | gt => exact List.cons_lt_cons_iff.mpr (.inr ⟨rfl, h'⟩)
      | eq => exact congrArg (a :: ·) h'

theorem compares_singleton {κ : Type} [LinearOrder κ] {o : Ordering} {a b : κ}
    (h : o.Compares a b) : o.Compares [a] [b] := by
  have h' := compares_cons (l := []) (m := []) h (p := .eq) rfl
  rwa [Ordering.then_eq] at h'

theorem compares_natCast {o : Ordering} {m n : Nat} (h : o.Compares m n) :
    o.Compares (m : Int) (n : Int) := by
  cases o with
  | lt => exact Int.ofNat_lt.mpr h
  | gt => exact Int.ofNat_lt.mpr h
  | eq => exact congrArg Nat.cast h

/-- The year, the month and the day of a date. -/
def Date.key (d : Date) : List Int :=
  [d.year, d.month, d.day]

theorem Date.compares_key (a b : Date) : (a.compare b).Compares a.key b.key := by
  have hy : (Ord.compare a.year b.year).Compares a.year b.year := (compare_iff _ _).mp rfl
  have hm : (Ord.compare a.month b.month).Compares a.month b.month := (compare_iff _ _).mp rfl
  have hd : (Ord.compare a.day b.day).Compares a.day b.day := (compare_iff _ _).mp rfl
  exact compares_cons hy
    (compares_cons (compares_natCast hm) (compares_singleton (compares_natCast hd)))

/-- A digit behind two numbers decides between them if they agree. -/
theorem compares_mul_add {o p : Ordering} {a b c d n : Nat} (h : o.Compares a b)
    (h' : p.Compares c d) (hc : c < n) (hd : d < n) :
    (o.then p).Compares (a * n + c) (b * n + d) := by
  cases o with
  | lt =>
      have h₁ : a * n + n ≤ b * n := by
        rw [← Nat.succ_mul]
        exact Nat.mul_le_mul_right n h
      exact Nat.lt_of_lt_of_le (Nat.add_lt_add_left hc _) (Nat.le_trans h₁ (Nat.le_add_right _ d))
  | gt =>
      have h₁ : b * n + n ≤ a * n := by
        rw [← Nat.succ_mul]
        exact Nat.mul_le_mul_right n h
      exact Nat.lt_of_lt_of_le (Nat.add_lt_add_left hd _) (Nat.le_trans h₁ (Nat.le_add_right _ c))
  | eq =>
      obtain rfl : a = b := h
      cases p with
      | lt => exact Nat.add_lt_add_left h' _
      | gt => exact Nat.add_lt_add_left h' _
      | eq => exact congrArg (a * n + ·) h'

/-- The whole seconds since midnight, and the nanoseconds that have passed since. -/
def TimeOfDay.key (t : TimeOfDay) : List Nat :=
  [(t.hour * 60 + t.minute) * 60 + t.second, t.nanosecond]

theorem TimeOfDay.compares_key (a b : TimeOfDay) : (a.compare b).Compares a.key b.key := by
  obtain ⟨-, ham, has, -⟩ := a.isTimeOfDay
  obtain ⟨-, hbm, hbs, -⟩ := b.isTimeOfDay
  have hh : (Ord.compare a.hour b.hour).Compares a.hour b.hour := (compare_iff _ _).mp rfl
  have hm : (Ord.compare a.minute b.minute).Compares a.minute b.minute := (compare_iff _ _).mp rfl
  have hs : (Ord.compare a.second b.second).Compares a.second b.second := (compare_iff _ _).mp rfl
  have hn : (Ord.compare a.nanosecond b.nanosecond).Compares a.nanosecond b.nanosecond :=
    (compare_iff _ _).mp rfl
  have h := compares_cons (compares_mul_add (compares_mul_add hh hm ham hbm) hs has hbs)
    (compares_singleton hn)
  rwa [Ordering.then_assoc, Ordering.then_assoc] at h

/-! ### Texts -/

/-- The bytes of a text in UTF-8. -/
def utf8 (s : String) : List Nat :=
  s.toUTF8.data.toList.map UInt8.toNat

/-- The bytes of a code point in UTF-8. -/
def codeBytes (n : Nat) : List Nat :=
  if n < 128 then [n]
  else if n < 2048 then [192 + n / 64, 128 + n % 64]
  else if n < 65536 then [224 + n / 4096, 128 + n / 64 % 64, 128 + n % 64]
  else [240 + n / 262144, 128 + n / 4096 % 64, 128 + n / 64 % 64, 128 + n % 64]

theorem map_utf8EncodeChar (c : Char) :
    (String.utf8EncodeChar c).map UInt8.toNat = codeBytes c.toNat := by
  have h : c.toNat < 1114112 := by
    rcases c.valid with h | ⟨_, h⟩
    · exact Nat.lt_trans h (by decide)
    · exact h
  have hc : c.val.toNat = c.toNat := rfl
  rw [String.utf8EncodeChar, codeBytes, hc]
  split
  · rw [if_pos (by omega)]
    simp
    omega
  split
  · rw [if_neg (by omega), if_pos (by omega)]
    simp
    omega
  split
  · rw [if_neg (by omega), if_neg (by omega), if_pos (by omega)]
    simp
    omega
  · rw [if_neg (by omega), if_neg (by omega), if_neg (by omega)]
    simp
    omega

theorem utf8_eq (s : String) : utf8 s = s.toList.flatMap fun c => codeBytes c.toNat := by
  have h : s.toUTF8.data.toList = s.toList.flatMap String.utf8EncodeChar := by
    rw [String.toUTF8, ← String.utf8Encode_toList, List.utf8Encode, List.toList_data_toByteArray]
  rw [utf8, h, List.map_flatMap]
  exact congrArg (fun f => s.toList.flatMap f) (funext map_utf8EncodeChar)

/-- A smaller code point has smaller bytes, whatever follows them: the first byte tells how many
there are and grows with their number, and bytes of one number are the digits of the code
point. -/
theorem codeBytes_append_lt {i j : Nat} (h : i < j) (l m : List Nat) :
    codeBytes i ++ l < codeBytes j ++ m := by
  rw [codeBytes, codeBytes]
  repeat' split
  all_goals simp only [List.cons_append, List.nil_append, List.cons_lt_cons_iff]
  all_goals omega

theorem flatMap_codeBytes_lt {cs ds : List Char} (h : cs < ds) :
    (cs.flatMap fun c => codeBytes c.toNat) < ds.flatMap fun c => codeBytes c.toNat := by
  induction h with
  | @nil d ds =>
      rw [List.flatMap_nil, List.flatMap_cons, codeBytes]
      repeat' split
      all_goals exact List.nil_lt_cons _ _
  | @cons c cs ds _ ih =>
      rw [List.flatMap_cons, List.flatMap_cons]
      exact List.append_left_lt ih
  | rel h => exact codeBytes_append_lt h _ _

theorem utf8_lt {s t : String} (h : s < t) : utf8 s < utf8 t := by
  rw [utf8_eq, utf8_eq]
  exact flatMap_codeBytes_lt h

/-- **The order of code points is the order of bytes**: two texts compare as their UTF-8 forms
do. -/
theorem compares_utf8 (s t : String) : (Ord.compare s t).Compares (utf8 s) (utf8 t) := by
  change (compareOfLessAndEq s t).Compares _ _
  unfold compareOfLessAndEq
  split
  · next h => exact utf8_lt h
  split
  · next h => exact congrArg utf8 h
  · next h h' =>
      rcases Std.lt_trichotomy s t with h'' | h'' | h''
      · exact absurd h'' h
      · exact absurd h'' h'
      · exact utf8_lt h''

end RecordFilter
