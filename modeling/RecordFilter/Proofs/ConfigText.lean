import RecordFilter.Config
import RecordFilter.Proofs.TomlText

/-! # Written configurations are read back

A configuration is written as a document of at most four statements, each on its own line, and the
document that is made from these has the settings of the configuration.  Both texts that the
program writes are read back: that of a configuration (`read?_text`), and the one that is to be
filled in, in which nothing is chosen (`read?_template`). -/

namespace RecordFilter

namespace Toml

section reading
variable {rest : List Char}

/-! ### Lines -/

theorem readValue_quoted (fuel depth : Nat) (s : String) (hrest : Unquoted rest) :
    readValue (fuel + 1) depth (quoted s ++ rest) = some (.text s, rest) := by
  have hread := readQuoted_quoted s hrest
  obtain ⟨q, body, hq, heq⟩ : ∃ q body, (q = '"' ∨ q = '\'') ∧ quoted s ++ rest = q :: body := by
    rw [quoted_eq rfl]
    cases QuoteStyle.choose s.toList with
    | escaped | escapedLines => exact ⟨_, _, .inl rfl, rfl⟩
    | literal | literalLines => exact ⟨_, _, .inr rfl, rfl⟩
  rw [heq] at hread ⊢
  rcases hq with rfl | rfl
  all_goals
    change (readQuoted _).map _ = _
    rw [hread]
    simp

theorem dropSpace_quoted (s : String) (rest : List Char) :
    dropSpace (quoted s ++ rest) = quoted s ++ rest := by
  rw [quoted_eq rfl]
  cases QuoteStyle.choose s.toList <;> rfl

theorem readStatements_line {fuel : Nat} {cs line tail : List Char} {c : Char}
    {statement : TomlStatement} (hdrop : dropLines fuel cs = some (c :: line))
    (hstatement : readStatement fuel (c :: line) = some (statement, tail))
    (hend : endLine tail = some rest) :
    readStatements (fuel + 1) cs = (readStatements fuel rest).map (statement :: ·) := by
  rw [readStatements, hdrop]
  simp only [Option.bind_eq_bind, Option.bind_some, hstatement, hend]
  cases readStatements fuel rest <;> rfl

theorem dropSpace_bare {c : Char} (h : isBare c = true) (cs : List Char) :
    dropSpace (c :: cs) = c :: cs := by
  rw [dropSpace, List.dropWhile_cons_of_neg]
  intro hspace
  have hblank : c = ' ' ∨ c = '\t' := by simpa using hspace
  rcases hblank with rfl | rfl <;> exact absurd h (by decide)

theorem dropLines_bare (fuel : Nat) {c : Char} (h : isBare c = true) {cs : List Char} :
    dropLines (fuel + 1) (c :: cs) = some (c :: cs) := by
  rw [dropLines, dropSpace_bare h]
  split
  · next hc =>
    rw [(List.cons.inj hc).1] at h
    exact absurd h (by decide)
  · next hc =>
    rw [(List.cons.inj hc).1] at h
    exact absurd h (by decide)
  · next hc =>
    rw [(List.cons.inj hc).1] at h
    exact absurd h (by decide)
  · rfl

theorem readName_bare (fuel : Nat) {name : List Char} (hne : name ≠ [])
    (hbare : ∀ c ∈ name, isBare c = true) :
    readName (fuel + 1) (name ++ ' ' :: '=' :: rest) =
      some (⟨[], String.ofList name⟩, '=' :: rest) := by
  obtain ⟨c, cs, rfl⟩ := List.exists_cons_of_ne_nil hne
  have hc := hbare c List.mem_cons_self
  have hname : readSimpleName (c :: cs ++ ' ' :: '=' :: rest) =
      some (String.ofList (c :: cs), ' ' :: '=' :: rest) := by
    rw [readSimpleName.eq_def]
    have htake : (c :: cs ++ ' ' :: '=' :: rest).takeWhile isBare = c :: cs := by
      rw [List.takeWhile_append_of_pos hbare]
      simp [isBare]
    have hdrop : (c :: cs ++ ' ' :: '=' :: rest).dropWhile isBare = ' ' :: '=' :: rest := by
      rw [List.dropWhile_append_of_pos hbare]
      simp [isBare]
    split
    · next h =>
      rw [(List.cons.inj h).1] at hc
      exact absurd hc (by decide)
    · next h =>
      rw [(List.cons.inj h).1] at hc
      exact absurd hc (by decide)
    · rw [htake, hdrop]
  have hspace : dropSpace (c :: cs ++ ' ' :: '=' :: rest) = c :: cs ++ ' ' :: '=' :: rest :=
    dropSpace_bare hc _
  have hequals : dropSpace (' ' :: '=' :: rest) = '=' :: rest := rfl
  rw [readName, readNames, hspace, hname]
  simp only [Option.bind_eq_bind, Option.bind_some, hequals]
  rfl

theorem readStatement_member {fuel : Nat} {name more tail : List Char} {value : Toml}
    (hne : name ≠ []) (hbare : ∀ c ∈ name, isBare c = true)
    (hvalue : readValue (fuel + 1) maxNesting (dropSpace more) = some (value, tail)) :
    readStatement (fuel + 1) (name ++ ' ' :: '=' :: more) =
      some (.member ⟨[], String.ofList name⟩ value, tail) := by
  obtain ⟨c, cs, rfl⟩ := List.exists_cons_of_ne_nil hne
  have hc : c ≠ '[' := by
    rintro rfl
    exact absurd (hbare '[' List.mem_cons_self) (by decide)
  rw [List.cons_append, readStatement]
  · rw [← List.cons_append, readName_bare fuel hne hbare]
    simp [hvalue]
  · rintro cs' h
    exact hc (List.cons.inj h).1
  · rintro cs' h
    exact hc (List.cons.inj h).1

theorem readStatements_member {fuel : Nat} {name value : List Char} {v : Toml}
    (hne : name ≠ []) (hbare : ∀ c ∈ name, isBare c = true)
    (hspace : dropSpace (value ++ '\n' :: rest) = value ++ '\n' :: rest)
    (hvalue : readValue (fuel + 1) maxNesting (value ++ '\n' :: rest) = some (v, '\n' :: rest)) :
    readStatements (fuel + 2) (name ++ ' ' :: '=' :: ' ' :: (value ++ '\n' :: rest)) =
      (readStatements (fuel + 1) rest).map (.member ⟨[], String.ofList name⟩ v :: ·) := by
  have hstatement : readStatement (fuel + 1)
      (name ++ ' ' :: '=' :: ' ' :: (value ++ '\n' :: rest)) =
      some (.member ⟨[], String.ofList name⟩ v, '\n' :: rest) := by
    refine readStatement_member hne hbare ?_
    change readValue (fuel + 1) maxNesting (dropSpace (value ++ '\n' :: rest)) = _
    rw [hspace, hvalue]
  obtain ⟨c, cs, rfl⟩ := List.exists_cons_of_ne_nil hne
  exact readStatements_line (dropLines_bare fuel (hbare c List.mem_cons_self)) hstatement rfl

theorem readStatements_output (fuel : Nat) :
    readStatements (fuel + 3) ('\n' :: ("[output]\n".toList ++ rest)) =
      (readStatements (fuel + 2) rest).map (.heading ⟨[], "output"⟩ :: ·) := by
  have hdrop : dropLines (fuel + 2) ('\n' :: ("[output]\n".toList ++ rest)) =
      some ('[' :: ("output]\n".toList ++ rest)) := rfl
  have hstatement : readStatement (fuel + 2) ('[' :: ("output]\n".toList ++ rest)) =
      some (.heading ⟨[], "output"⟩, '\n' :: rest) := rfl
  exact readStatements_line hdrop hstatement rfl

/-! ### Texts -/

/-- The text has these statements, which are read in any number of steps from a bound on. -/
def Reads (bound : Nat) (cs : List Char) (statements : List TomlStatement) : Prop :=
  ∀ fuel, bound ≤ fuel → readStatements fuel cs = some statements

theorem reads_nil : Reads 2 [] [] := by
  intro fuel hfuel
  obtain ⟨k, rfl⟩ := Nat.exists_eq_add_of_le' hfuel
  rfl

theorem Reads.mono {m n : Nat} {statements : List TomlStatement} (h : Reads m rest statements)
    (hmn : m ≤ n) : Reads n rest statements :=
  fun fuel hfuel => h fuel (Nat.le_trans hmn hfuel)

/-- A line with a name, an equals sign and a value. -/
theorem Reads.member {n : Nat} {statements : List TomlStatement} (h : Reads (n + 1) rest statements)
    {name value : List Char} {v : Toml} (hne : name ≠ []) (hbare : name.all isBare = true)
    (hspace : dropSpace (value ++ '\n' :: rest) = value ++ '\n' :: rest)
    (hvalue : ∀ fuel,
      readValue (fuel + 1) maxNesting (value ++ '\n' :: rest) = some (v, '\n' :: rest)) :
    Reads (n + 2) (name ++ ' ' :: '=' :: ' ' :: (value ++ '\n' :: rest))
      (.member ⟨[], String.ofList name⟩ v :: statements) := by
  intro fuel hfuel
  obtain ⟨k, rfl⟩ := Nat.exists_eq_add_of_le' hfuel
  rw [← Nat.add_assoc, readStatements_member hne (List.all_eq_true.mp hbare) hspace
    (hvalue _), h _ (by omega)]
  rfl

theorem Reads.output {n : Nat} {statements : List TomlStatement}
    (h : Reads (n + 2) rest statements) :
    Reads (n + 3) ('\n' :: ("[output]\n".toList ++ rest))
      (.heading ⟨[], "output"⟩ :: statements) := by
  intro fuel hfuel
  obtain ⟨k, rfl⟩ := Nat.exists_eq_add_of_le' hfuel
  rw [← Nat.add_assoc, readStatements_output, h _ (by omega)]
  rfl

end reading

end Toml

namespace Config

open Toml

/-! ### Documents -/

/-- The statements of the document with a configuration. -/
def statements (c : Config) : List TomlStatement :=
  [.member ⟨[], "version"⟩ (.integer currentVersion)]
    ++ (c.dataPath.map fun p => .member ⟨[], "data_path"⟩ (.text p.text)).toList
    ++ [.heading ⟨[], "output"⟩]
    ++ (c.color.map fun color => .member ⟨[], "color"⟩ (.flag color)).toList

section lines
variable {rest : List Char} {statements : List TomlStatement}

theorem reads_versionLine (h : Reads 5 rest statements) :
    Reads 6 ("version".toList ++ ' ' :: '=' :: ' ' :: (['1'] ++ '\n' :: rest))
      (.member ⟨[], "version"⟩ (.integer currentVersion) :: statements) :=
  h.member (by decide) (by decide) rfl fun _ => rfl

theorem reads_dataPathLine (c : Config) (h : Reads 4 rest statements) :
    Reads 5 (c.dataPathLine.toList ++ rest)
      ((c.dataPath.map fun p => TomlStatement.member ⟨[], "data_path"⟩ (.text p.text)).toList
        ++ statements) := by
  cases hpath : c.dataPath with
  | none =>
      simp only [dataPathLine, hpath]
      exact h.mono (by omega)
  | some p =>
      have hline : c.dataPathLine.toList ++ rest =
          "data_path".toList ++ ' ' :: '=' :: ' ' :: (quoted p.text ++ '\n' :: rest) := by
        simp [dataPathLine, hpath]
      rw [hline]
      exact h.member (by decide) (by decide) (dropSpace_quoted p.text _)
        fun fuel => readValue_quoted fuel _ p.text (by simp [Unquoted])

theorem reads_colorLine (c : Config) :
    Reads 3 c.colorLine.toList
      (c.color.map fun color => TomlStatement.member ⟨[], "color"⟩ (.flag color)).toList := by
  cases hcolor : c.color with
  | none =>
      simp only [colorLine, hcolor]
      exact reads_nil.mono (by omega)
  | some color =>
      have hline : c.colorLine.toList =
          "color".toList ++ ' ' :: '=' :: ' ' :: ((flagText color).toList ++ '\n' :: []) := by
        simp [colorLine, hcolor]
      rw [hline]
      refine reads_nil.member (by decide) (by decide) ?_ fun fuel => ?_
      · cases color <;> rfl
      · cases color <;> rfl

end lines

theorem toList_text (c : Config) : c.text.toList =
    "version".toList ++ ' ' :: '=' :: ' ' :: (['1'] ++ '\n' :: (c.dataPathLine.toList
      ++ '\n' :: ("[output]\n".toList ++ c.colorLine.toList))) := by
  have hone : numeral currentVersion = ['1'] := by decide
  simp [text, hone]

theorem reads_text (c : Config) : Reads 6 c.text.toList c.statements := by
  have h := reads_versionLine (reads_dataPathLine c (reads_colorLine c).output)
  rw [toList_text]
  simpa [statements] using h

/-- The table that is made from the statements has the settings of the configuration. -/
theorem read?_statements (c : Config) : ∃ t, TomlTable.ofStatements c.statements = some t ∧
    versionOf? t = some currentVersion ∧ dataPathOf? t = some c.dataPath ∧
    colorOf? t = some c.color := by
  obtain ⟨dataPath, color⟩ := c
  cases dataPath <;> cases color <;> exact ⟨_, rfl, rfl, rfl, rfl⟩

theorem read?_text (c : Config) : Document.read? c.text = some ⟨currentVersion, c⟩ := by
  have hmark : dropMark c.text.toList = c.text.toList := by
    rw [toList_text]
    rfl
  have hlength : 1 ≤ c.text.toList.length := by
    rw [toList_text]
    simp
  obtain ⟨t, hstatements, hversion, hpath, hcolor⟩ := read?_statements c
  have htable : TomlTable.read? c.text = some t := by
    simp only [TomlTable.read?, hmark]
    rw [reads_text c _ (by omega)]
    exact hstatements
  simp [Document.read?, htable, hversion, hpath, hcolor]

theorem read?_template : Document.read? template = some ⟨currentVersion, unset⟩ := by
  -- The characters of each line are found by themselves, which takes much less time.
  unfold Document.read? TomlTable.read? template
  iterate 7 rw [String.toList_append]
  decide +kernel

end Config

end RecordFilter
