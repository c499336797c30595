import RecordFilter.Json
import RecordFilter.Proofs.Numerals
import RecordFilter.Proofs.Tokens

/-! # Written JSON is read back

A value is written in one form and read from many.  What is read is the tree of the text, so a tree
comes back only if the writer puts it down as it is: a number with a fraction is kept as it was
written and a string may have no text, and neither is a tree that the program makes.  All other
trees are `Plain`, and they are read back from their indented text (`read?_text`).

The proof follows the writer.  Each character of a string literal is written as one piece, which
denotes it (`readPieces_escaped`); a numeral ends where its value does, since a comma or a line
break follows (`Ends`); and the items of an array, like the members of an object, are read one by
one until the line break before the closing bracket (`readItems_write`, `readMembers_write`).  The
number of steps that the reader takes is bounded by the length of the text, and twice the length is
enough. -/

namespace RecordFilter

namespace Json

/-! ### String literals -/

theorem hexCode?_escaped : ∀ n < 32,
    hexCode? ['0', '0', hexDigit (n / 16), hexDigit (n % 16)] = some n := by
  decide

/-- What reading a piece in front of a text adds to the pieces of the text. -/
def consPiece (piece : Piece) (read : Option (List Piece × List Char)) :
    Option (List Piece × List Char) :=
  read.map fun (pieces, rest) => (piece :: pieces, rest)

theorem readPieces_letter {c d : Char} (h : unescape? c = some d) (hu : c ≠ 'u')
    (cs : List Char) : readPieces ('\\' :: c :: cs) = consPiece (.char d) (readPieces cs) := by
  rw [readPieces, h]
  · cases readPieces cs <;> rfl
  · intro a b c' d' rest hc
    exact absurd hc hu

theorem readPieces_code {n : Nat} {a b c d : Char} (h : hexCode? [a, b, c, d] = some n)
    (cs : List Char) : readPieces ('\\' :: 'u' :: a :: b :: c :: d :: cs) =
      consPiece (.code n) (readPieces cs) := by
  rw [readPieces, h]
  cases readPieces cs <;> rfl

theorem readPieces_char {c : Char} (hq : c ≠ '"') (hb : c ≠ '\\') (hc : ¬ c.toNat < 32)
    (cs : List Char) : readPieces (c :: cs) = consPiece (.char c) (readPieces cs) := by
  have hn : ¬ (c = '\\' ∨ c.toNat < 32) := by simp [hb, hc]
  rw [readPieces, if_neg hn]
  · cases readPieces cs <;> rfl
  · exact hq
  · intro _ _ _ _ _ h
    exact absurd h hb
  · intro _ _ h
    exact absurd h hb

theorem joinPieces_code {n : Nat} (hn : n < 0xD800) (pieces : List Piece) :
    joinPieces (.code n :: pieces) = (joinPieces pieces).map (Char.ofNat n :: ·) := by
  have h : ¬ (0xD800 ≤ n ∧ n < 0xE000) := by omega
  have h' : ∀ low, ¬ (0xD800 ≤ n ∧ n < 0xDC00 ∧ 0xDC00 ≤ low ∧ low < 0xE000) := by omega
  cases pieces with
  | nil => simp [joinPieces, h]
  | cons p ps =>
      cases p with
      | char c => simp [joinPieces, h]
      | code low => rw [joinPieces, if_neg (h' low), if_neg h]

/-- A character is written with an escape of one letter, with its code, or as it is. -/
theorem escaped_cases (c : Char) :
    (∃ d, escaped c = ['\\', d] ∧ unescape? d = some c ∧ d ≠ 'u') ∨
    (c.toNat < 32 ∧ escaped c =
      ['\\', 'u', '0', '0', hexDigit (c.toNat / 16), hexDigit (c.toNat % 16)]) ∨
    (escaped c = [c] ∧ c ≠ '"' ∧ c ≠ '\\' ∧ ¬ c.toNat < 32) := by
  unfold escaped
  iterate 7
    split
    · next h =>
        subst h
        exact .inl ⟨_, rfl, by decide, by decide⟩
  split
  · next hc => exact .inr (.inl ⟨hc, rfl⟩)
  · next hq hb _ _ _ _ _ hc => exact .inr (.inr ⟨rfl, hq, hb, hc⟩)

/-- The form of a character in a literal is read as one piece, which denotes the character. -/
theorem readPieces_escaped (c : Char) : ∃ piece : Piece,
    (∀ cs, readPieces (escaped c ++ cs) = consPiece piece (readPieces cs)) ∧
      ∀ pieces, joinPieces (piece :: pieces) = (joinPieces pieces).map (c :: ·) := by
  rcases escaped_cases c with ⟨d, he, hd, hu⟩ | ⟨hc, he⟩ | ⟨he, hq, hb, hc⟩
  · rw [he]
    exact ⟨.char c, fun cs => readPieces_letter hd hu cs, fun _ => rfl⟩
  · rw [he]
    refine ⟨.code c.toNat, fun cs => readPieces_code (hexCode?_escaped _ hc) cs, fun pieces => ?_⟩
    rw [joinPieces_code (by omega), Char.ofNat_toNat]
  · rw [he]
    exact ⟨.char c, fun cs => readPieces_char hq hb hc cs, fun _ => rfl⟩

theorem readPieces_flatMap (text rest : List Char) : ∃ pieces,
    readPieces (text.flatMap escaped ++ '"' :: rest) = some (pieces, rest) ∧
      joinPieces pieces = some text := by
  induction text with
  | nil => exact ⟨[], rfl, rfl⟩
  | cons c text ih =>
      obtain ⟨pieces, hr, hj⟩ := ih
      obtain ⟨piece, hp, hc⟩ := readPieces_escaped c
      refine ⟨piece :: pieces, ?_, by rw [hc, hj]; rfl⟩
      rw [List.flatMap_cons, List.append_assoc, hp, hr]
      rfl

theorem readString_flatMap (s : String) (rest : List Char) :
    readString (s.toList.flatMap escaped ++ '"' :: rest) = some (some s, rest) := by
  obtain ⟨pieces, hr, hj⟩ := readPieces_flatMap s.toList rest
  simp [readString, hr, hj]

/-! ### Numbers -/

/-- A value ends in front of the text: at its end, at a comma or at a line break. -/
def Ends (rest : List Char) : Prop :=
  ∀ c ∈ rest.head?, c = ',' ∨ c = '\n'

theorem ends_nil : Ends [] := by
  simp [Ends]

theorem ends_comma (rest : List Char) : Ends (',' :: rest) := by
  simp [Ends]

theorem ends_newline (depth : Nat) (rest : List Char) : Ends (newline depth ++ rest) := by
  simp [Ends, newline]

theorem numeral_zero : numeral 0 = ['0'] := by
  decide

theorem eq_zero_of_numeral_eq_cons {n : Nat} {cs : List Char} (h : numeral n = '0' :: cs) :
    n = 0 := by
  have hv : digitsValue cs = n := by
    rw [← digitsValue_numeral n, h]
    rfl
  cases cs with
  | nil => rw [← hv]; rfl
  | cons c cs =>
      -- the digits behind the zero spell the number, so its numeral would be shorter
      have hd : IsDigits (cs.length + 1) (c :: cs) :=
        ⟨rfl, fun d hd => isDigit_of_mem_numeral (h ▸ List.mem_cons_of_mem _ hd)⟩
      have hlt := digitsValue_lt hd
      rw [hv] at hlt
      have hl : (numeral n).length ≤ cs.length + 1 :=
        (Nat.length_toDigits_le_iff (by decide) (Nat.succ_pos _)).mpr hlt
      rw [h, List.length_cons, List.length_cons] at hl
      omega

section number
variable {rest : List Char} (h : Ends rest)
include h

theorem readRun_numeral (n : Nat) : readRun (numeral n ++ rest) = some (numeral n, rest) := by
  have hr : ∀ c ∈ rest.head?, c.isDigit = false := by
    intro c hc
    rcases h c hc with rfl | rfl <;> decide
  obtain ⟨ht, hd⟩ := span_append (fun c hc => isDigit_of_mem_numeral hc) hr
  unfold readRun
  rw [ht, hd]
  split
  · next he => exact absurd he (numeral_ne_nil n)
  · rfl

theorem readWhole_numeral (n : Nat) : readWhole (numeral n ++ rest) = some (numeral n, rest) := by
  by_cases hn : n = 0
  · rw [hn, numeral_zero]
    rfl
  · unfold readWhole
    split
    · next cs hc =>
        obtain ⟨d, ds, hw, -⟩ := numeral_eq_cons n
        rw [hw] at hc
        obtain ⟨rfl, -⟩ := List.cons.inj hc
        exact absurd (eq_zero_of_numeral_eq_cons hw) hn
    · exact readRun_numeral h n

theorem readFraction_of_ends : readFraction rest = some ([], rest) := by
  unfold readFraction
  split
  · rcases h _ rfl with h | h <;> cases h
  · rfl

theorem readExponent_of_ends : readExponent rest = some ([], rest) := by
  cases rest with
  | nil => rfl
  | cons c cs =>
      have hc : ¬ (c = 'e' ∨ c = 'E') := by
        rcases h c rfl with rfl | rfl <;> decide
      rw [readExponent, if_neg hc]

theorem readUnsigned_numeral (negative : Bool) (n : Nat) (hn : negative = true → n ≠ 0) :
    readUnsigned negative (numeral n ++ rest) =
      some (.integer (if negative then -(n : Int) else n), rest) := by
  have hs : (negative && digitsValue (numeral n) == 0) = false := by
    cases negative with
    | false => rfl
    | true => simpa using hn rfl
  rw [readUnsigned, readWhole_numeral h]
  simp only [Option.bind_eq_bind, Option.bind_some, readFraction_of_ends h,
    readExponent_of_ends h]
  rw [number, hs, digitsValue_numeral]
  rfl

theorem readNumber_integerText (n : Int) :
    readNumber (integerText n ++ rest) = some (.integer n, rest) := by
  unfold integerText
  by_cases hn : n < 0
  · rw [if_pos hn, List.cons_append, readNumber, readUnsigned_numeral h true _ (by omega)]
    simp only [if_true]
    congr 3
    omega
  · rw [if_neg hn]
    unfold readNumber
    split
    · next cs hc =>
        obtain ⟨d, ds, hw, hd⟩ := numeral_eq_cons n.natAbs
        rw [hw] at hc
        obtain ⟨rfl, -⟩ := List.cons.inj hc
        exact absurd hd (by decide)
    · rw [readUnsigned_numeral h false _ (by simp)]
      simp only [Bool.false_eq_true, if_false]
      congr 3
      omega

end number

/-! ### Blanks -/

theorem dropSpace_newline (depth : Nat) (cs : List Char) :
    dropSpace (newline depth ++ cs) = dropSpace cs := by
  have hs : ∀ c ∈ newline depth, isSpace c = true := by
    intro c hc
    rcases List.mem_cons.mp hc with rfl | hc
    · decide
    · rw [(List.mem_replicate.mp hc).2]
      decide
  rw [dropSpace, List.dropWhile_append_of_pos hs]
  rfl

theorem dropSpace_cons {c : Char} (h : isSpace c = false) (cs : List Char) :
    dropSpace (c :: cs) = c :: cs :=
  List.dropWhile_cons_of_neg (by simp [h])

theorem readValue_newline (fuel depth : Nat) (cs : List Char) :
    readValue fuel (newline depth ++ cs) = readValue fuel cs := by
  cases fuel with
  | zero => rw [readValue, readValue]
  | succ fuel => rw [readValue, readValue, dropSpace_newline]

theorem readValue_space (fuel : Nat) (cs : List Char) :
    readValue fuel (' ' :: cs) = readValue fuel cs := by
  cases fuel with
  | zero => rw [readValue, readValue]
  | succ fuel => rfl

/-! ### Values -/

mutual

/-- The value is written as it is: no number is other than an integer, and every string has a
text. -/
def Plain : Json → Prop
  | .null | .bool _ | .integer _ => True
  | .decimal _ => False
  | .string text => text.isSome = true
  | .array items => AllPlain items
  | .object members => AllMembersPlain members

/-- All items of an array are plain. -/
def AllPlain : List Json → Prop
  | [] => True
  | item :: items => item.Plain ∧ AllPlain items

/-- All members of an object have names and plain values. -/
def AllMembersPlain : List (Option String × Json) → Prop
  | [] => True
  | (name, value) :: members => name.isSome = true ∧ value.Plain ∧ AllMembersPlain members

end

theorem integerText_eq_cons (n : Int) : ∃ c cs, integerText n = c :: cs ∧
    (c.isDigit = true ∨ c = '-') := by
  unfold integerText
  split
  · exact ⟨'-', _, rfl, .inr rfl⟩
  · obtain ⟨c, cs, hw, hc⟩ := numeral_eq_cons n.natAbs
    exact ⟨c, cs, hw, .inl hc⟩

/-- What begins a numeral begins nothing else. -/
theorem ne_of_isDigit {c d : Char} (h : c.isDigit = true ∨ c = '-') (hd : d.isDigit = false)
    (hm : d ≠ '-') : c ≠ d := by
  rintro rfl
  rcases h with h | h
  · rw [h] at hd
    cases hd
  · exact hm h

theorem readValue_integer (n : Int) (fuel : Nat) {rest : List Char} (h : Ends rest) :
    readValue (fuel + 1) (integerText n ++ rest) = some (.integer n, rest) := by
  have hn := readNumber_integerText h n
  obtain ⟨c, cs, he, hc⟩ := integerText_eq_cons n
  rw [he, List.cons_append] at hn ⊢
  have hs : isSpace c = false := by
    simp [isSpace, ne_of_isDigit hc]
  rw [readValue, dropSpace_cons hs]
  split
  case h_7 => exact hn
  all_goals
    next hx =>
      obtain ⟨rfl, -⟩ := List.cons.inj hx
      exact absurd hc (by decide)

theorem readValue_string (s : String) (fuel : Nat) (rest : List Char) :
    readValue (fuel + 1) (quoted s ++ rest) = some (.string (some s), rest) := by
  rw [readValue, quoted, List.cons_append, List.cons_append, dropSpace_cons (by decide)]
  simp only [List.append_assoc, List.cons_append, List.nil_append, readString_flatMap]
  rfl

theorem readValue_array (fuel : Nat) {cs : List Char} (h : ∀ rest, dropSpace cs ≠ ']' :: rest) :
    readValue (fuel + 1) ('[' :: cs) =
      (readItems fuel cs).map fun (items, rest) => (.array items, rest) := by
  rw [readValue, dropSpace_cons (by decide)]
  simp only

theorem readValue_object (fuel : Nat) {cs : List Char}
    (h : ∀ rest, dropSpace cs ≠ '\x7d' :: rest) :
    readValue (fuel + 1) ('\x7b' :: cs) =
      (readMembers fuel cs).map fun (members, rest) => (.object members, rest) := by
  rw [readValue, dropSpace_cons (by decide)]
  simp only

/-- A written value begins with no blank and no closing bracket. -/
theorem Plain.write_eq_cons {j : Json} (hj : j.Plain) (depth : Nat) :
    ∃ c cs, j.write depth = c :: cs ∧ isSpace c = false ∧ c ≠ ']' := by
  cases j with
  | null => exact ⟨'n', _, rfl, by decide, by decide⟩
  | bool b => cases b <;> exact ⟨_, _, rfl, by decide, by decide⟩
  | integer n =>
      obtain ⟨c, cs, he, hc⟩ := integerText_eq_cons n
      exact ⟨c, cs, he, by simp [isSpace, ne_of_isDigit hc],
        ne_of_isDigit hc (by decide) (by decide)⟩
  | decimal literal => exact hj.elim
  | string text => exact ⟨'"', _, rfl, by decide, by decide⟩
  | array items => cases items <;> exact ⟨'[', _, rfl, by decide, by decide⟩
  | object members =>
      rcases members with _ | ⟨⟨name, value⟩, members⟩ <;>
        exact ⟨'\x7b', _, rfl, by decide, by decide⟩

/-! ### Items and members -/

theorem writeItems_cons (depth : Nat) (item : Json) (items : List Json) :
    writeItems depth (item :: items) =
      ',' :: (newline depth ++ (item.write depth ++ writeItems depth items)) := by
  simp [writeItems]

theorem write_array_cons (depth : Nat) (item : Json) (items : List Json) :
    (array (item :: items)).write depth =
      '[' :: ((writeItems (depth + 1) (item :: items)).tail ++ (newline depth ++ [']'])) := by
  simp [write, writeItems]

theorem writeMembers_cons (depth : Nat) (name : String) (value : Json)
    (members : List (Option String × Json)) :
    writeMembers depth ((some name, value) :: members) =
      ',' :: (newline depth ++ (quoted name ++ (':' :: ' ' ::
        (value.write depth ++ writeMembers depth members)))) := by
  simp [writeMembers]

theorem write_object_cons (depth : Nat) (name : String) (value : Json)
    (members : List (Option String × Json)) :
    (object ((some name, value) :: members)).write depth = '\x7b' ::
      ((writeMembers (depth + 1) ((some name, value) :: members)).tail ++
        (newline depth ++ ['\x7d'])) := by
  simp [write, writeMembers]

theorem ends_writeItems (depth depth' : Nat) (items : List Json) (rest : List Char) :
    Ends (writeItems depth items ++ (newline depth' ++ rest)) := by
  cases items with
  | nil => exact ends_newline depth' rest
  | cons item items =>
      rw [writeItems_cons]
      exact ends_comma _

theorem ends_writeMembers (depth depth' : Nat) {members : List (Option String × Json)}
    (hm : AllMembersPlain members) (rest : List Char) :
    Ends (writeMembers depth members ++ (newline depth' ++ rest)) := by
  rcases members with _ | ⟨⟨name, value⟩, members⟩
  · exact ends_newline depth' rest
  · obtain ⟨s, rfl⟩ := Option.isSome_iff_exists.mp hm.1
    rw [writeMembers_cons]
    exact ends_comma _

/-- The last item stands in front of the closing bracket. -/
theorem readItems_singleton {fuel : Nat} {cs rest : List Char} {item : Json} (depth : Nat)
    (h : readValue fuel cs = some (item, newline depth ++ ']' :: rest)) :
    readItems (fuel + 1) cs = some ([item], rest) := by
  rw [readItems, h]
  simp [dropSpace_newline, dropSpace_cons (show isSpace ']' = false by decide)]

/-- Any other item stands in front of a comma. -/
theorem readItems_cons {fuel : Nat} {cs cs' rest : List Char} {item : Json} {items : List Json}
    (h : readValue fuel cs = some (item, ',' :: cs'))
    (h' : readItems fuel cs' = some (items, rest)) :
    readItems (fuel + 1) cs = some (item :: items, rest) := by
  rw [readItems, h]
  simp [dropSpace_cons (show isSpace ',' = false by decide), h']

theorem dropSpace_quoted (s : String) (cs : List Char) :
    dropSpace (quoted s ++ cs) = '"' :: (s.toList.flatMap escaped ++ '"' :: cs) := by
  rw [quoted, List.cons_append, List.cons_append, dropSpace_cons (by decide), List.append_assoc]
  rfl

/-- The last member stands in front of the closing brace. -/
theorem readMembers_singleton {fuel : Nat} {cs rest : List Char} {name : String} {value : Json}
    (depth depth' : Nat) (h : readValue fuel cs = some (value, newline depth' ++ '\x7d' :: rest)) :
    readMembers (fuel + 1) (newline depth ++ (quoted name ++ (':' :: ' ' :: cs))) =
      some ([(some name, value)], rest) := by
  rw [← readValue_space] at h
  rw [readMembers, dropSpace_newline, dropSpace_quoted]
  simp [readString_flatMap, dropSpace_cons (show isSpace ':' = false by decide), h,
    dropSpace_newline, dropSpace_cons (show isSpace '\x7d' = false by decide)]

/-- Any other member stands in front of a comma. -/
theorem readMembers_cons {fuel : Nat} {cs cs' rest : List Char} {name : String} {value : Json}
    {members : List (Option String × Json)} (depth : Nat)
    (h : readValue fuel cs = some (value, ',' :: cs'))
    (h' : readMembers fuel cs' = some (members, rest)) :
    readMembers (fuel + 1) (newline depth ++ (quoted name ++ (':' :: ' ' :: cs))) =
      some ((some name, value) :: members, rest) := by
  rw [← readValue_space] at h
  rw [readMembers, dropSpace_newline, dropSpace_quoted]
  simp [readString_flatMap, dropSpace_cons (show isSpace ':' = false by decide), h,
    dropSpace_cons (show isSpace ',' = false by decide), h']

mutual

/-- A plain value is read back in front of a text at which it ends. -/
theorem readValue_write (j : Json) (hj : j.Plain) (depth : Nat) {fuel : Nat} {rest : List Char}
    (hf : 2 * (j.write depth).length < fuel) (hr : Ends rest) :
    readValue fuel (j.write depth ++ rest) = some (j, rest) := by
  obtain _ | fuel := fuel
  · cases hf
  cases j with
  | null => rfl
  | bool b => cases b <;> rfl
  | integer n => exact readValue_integer n fuel hr
  | decimal literal => exact hj.elim
  | string text =>
      obtain ⟨s, rfl⟩ := Option.isSome_iff_exists.mp hj
      exact readValue_string s fuel rest
  | array items =>
      cases items with
      | nil => rfl
      | cons item items =>
          rw [write_array_cons] at hf ⊢
          simp only [writeItems_cons, List.tail_cons, List.length_cons, List.length_append,
            newline] at hf
          have hi : readItems fuel _ = some (_, rest) :=
            readItems_write (item :: items) hj (List.cons_ne_nil _ _) (depth + 1) depth (by
              simp only [writeItems_cons, List.length_cons, List.length_append, newline]
              omega)
          obtain ⟨c, cs, hw, hc, hne⟩ := hj.1.write_eq_cons (depth + 1)
          rw [List.cons_append, List.append_assoc, List.append_assoc, readValue_array]
          · simp [hi]
          · intro rest he
            rw [writeItems_cons, List.tail_cons, List.append_assoc, dropSpace_newline, hw,
              List.append_assoc, List.cons_append, dropSpace_cons hc] at he
            exact hne (List.cons.inj he).1
  | object members =>
      rcases members with _ | ⟨⟨_ | s, value⟩, members⟩
      · rfl
      · cases hj.1
      rw [write_object_cons] at hf ⊢
      simp only [writeMembers_cons, List.tail_cons, List.length_cons, List.length_append,
        newline] at hf
      have hm : readMembers fuel _ = some (_, rest) :=
        readMembers_write ((some s, value) :: members) hj (List.cons_ne_nil _ _) (depth + 1) depth
          (by
            simp only [writeMembers_cons, List.length_cons, List.length_append, newline]
            omega)
      rw [List.cons_append, List.append_assoc, List.append_assoc, readValue_object]
      · simp [hm]
      · intro rest he
        rw [writeMembers_cons, List.tail_cons, List.append_assoc, dropSpace_newline,
          List.append_assoc, dropSpace_quoted] at he
        cases he

theorem readItems_write (items : List Json) (hi : AllPlain items) (hne : items ≠ [])
    (depth depth' : Nat) {fuel : Nat} {rest : List Char}
    (hf : 2 * (writeItems depth items).length < fuel) :
    readItems fuel ((writeItems depth items).tail ++ (newline depth' ++ ']' :: rest)) =
      some (items, rest) := by
  cases items with
  | nil => exact absurd rfl hne
  | cons item items =>
      obtain _ | fuel := fuel
      · cases hf
      rw [writeItems_cons] at hf ⊢
      simp only [List.length_cons, List.length_append] at hf
      have hv : readValue fuel _ = some (item, _) := readValue_write item hi.1 depth (by omega)
        (ends_writeItems depth depth' items (']' :: rest))
      rw [← readValue_newline fuel depth] at hv
      rw [List.tail_cons, List.append_assoc, List.append_assoc]
      cases items with
      | nil => exact readItems_singleton depth' hv
      | cons item' items =>
          have hs : readItems fuel (_ ++ (newline depth' ++ ']' :: rest)) = _ :=
            readItems_write (item' :: items) hi.2 (List.cons_ne_nil _ _) depth depth' (by omega)
          rw [writeItems_cons] at hs hv ⊢
          exact readItems_cons hv hs

theorem readMembers_write (members : List (Option String × Json)) (hm : AllMembersPlain members)
    (hne : members ≠ []) (depth depth' : Nat) {fuel : Nat} {rest : List Char}
    (hf : 2 * (writeMembers depth members).length < fuel) :
    readMembers fuel ((writeMembers depth members).tail ++ (newline depth' ++ '\x7d' :: rest)) =
      some (members, rest) := by
  rcases members with _ | ⟨⟨_ | s, value⟩, members⟩
  · exact absurd rfl hne
  · cases hm.1
  obtain _ | fuel := fuel
  · cases hf
  rw [writeMembers_cons] at hf ⊢
  simp only [List.length_cons, List.length_append] at hf
  have hv : readValue fuel _ = some (value, _) := readValue_write value hm.2.1 depth (by omega)
    (ends_writeMembers depth depth' hm.2.2 ('\x7d' :: rest))
  rw [List.tail_cons, List.append_assoc, List.append_assoc, List.cons_append, List.cons_append,
    List.append_assoc]
  rcases members with _ | ⟨⟨_ | s', value'⟩, members⟩
  · exact readMembers_singleton depth depth' hv
  · cases hm.2.2.1
  · have hs : readMembers fuel (_ ++ (newline depth' ++ '\x7d' :: rest)) = _ :=
      readMembers_write ((some s', value') :: members) hm.2.2 (List.cons_ne_nil _ _) depth depth'
        (by omega)
    rw [writeMembers_cons] at hs hv ⊢
    exact readMembers_cons depth hv hs

end

/-- **A plain value is read back from its indented text.** -/
theorem read?_text {j : Json} (hj : j.Plain) : read? j.text = some j := by
  have h : readValue (2 * (j.write 0).length + 2) (j.write 0 ++ []) = _ :=
    readValue_write j hj 0 (by omega) ends_nil
  rw [List.append_nil] at h
  simp only [read?, text, String.toList_ofList, h]
  rfl

end Json

end RecordFilter
