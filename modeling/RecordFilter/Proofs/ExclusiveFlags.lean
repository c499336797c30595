import RecordFilter.CommandLine.Reader

/-! # Verbose and quiet

The two flags belong to every command, and each command judges its own words.  So no command is
given both of them (`not_both_of_read`), wherever they stand among its words and however they are
spelled.  The flags of all commands of a command line are then put together, and nothing is judged
after that: a command line is both verbose and quiet exactly if the flags are given to different
commands (`verbose_and_quiet_iff`). -/

namespace RecordFilter

/-! ### The flags of one command -/

theorem Scan.finish_eq_ok_iff {b : Branch} {e : Environment} {s : Scan}
    {given : List (Argument × String)} :
    s.finish b e = .ok given ↔ ∃ settled, s.settle = .ok settled ∧ settled.given = given ∧
      ¬ ((given.lookup .data).isNone ∧ e.data = some "") ∧
      ¬ ((given.lookup .verbose).isSome ∧ (given.lookup .quiet).isSome) ∧
      b.operands.length ≤ settled.operands := by
  simp only [Scan.finish, bind, Except.bind, throw, throwThe, MonadExceptOf.throw, pure,
    Except.pure]
  cases s.settle with
  | error fault => simp
  | ok settled => grind

namespace CommandLevel

/-- Whether an option is given to the command. -/
def gives (level : CommandLevel) (a : Argument) : Prop :=
  (level.given.lookup a).isSome

theorem read_nil_eq_ok_iff {e : Environment} {b : Branch} {s : Scan} {levels : List CommandLevel} :
    read e b s [] = .ok levels ↔ ∃ given, s.finish b e = .ok given ∧ levels = [⟨b, given⟩] := by
  simp only [read, bind, Except.bind, pure, Except.pure]
  cases s.finish b e with
  | error fault => simp
  | ok given => simp [eq_comm]

theorem read_cons_eq_ok_iff {e : Environment} {b : Branch} {s : Scan} {word : String}
    {words : List String} {levels : List CommandLevel} :
    read e b s (word :: words) = .ok levels ↔
      if s.trailing || s.isWaiting || !b.isChildName word then
        ∃ s', s.read b word = .ok s' ∧ read e b s' words = .ok levels
      else
        ∃ child below given, b.child? word = some child ∧ read e child .start words = .ok below ∧
          s.finish b e = .ok given ∧ levels = ⟨b, given⟩ :: below := by
  simp only [read, bind, Except.bind, pure, Except.pure]
  split
  · cases s.read b word with
    | error fault => simp
    | ok s' => simp
  · cases b.child? word with
    | none => simp
    | some child =>
        cases hbelow : read e child .start words with
        | error fault => simp [hbelow]
        | ok below =>
            cases s.finish b e with
            | error fault => simp [hbelow]
            | ok given => simp [hbelow, eq_comm]

theorem read_cons_cases {e : Environment} {b : Branch} {s : Scan} {word : String}
    {words : List String} {levels : List CommandLevel}
    (h : read e b s (word :: words) = .ok levels) :
    (∃ s', s.read b word = .ok s' ∧ read e b s' words = .ok levels) ∨
    ∃ child below given, b.child? word = some child ∧ read e child .start words = .ok below ∧
      s.finish b e = .ok given ∧ levels = ⟨b, given⟩ :: below := by
  have hcases := read_cons_eq_ok_iff.mp h
  split at hcases
  · exact .inl hcases
  · exact .inr hcases

/-- A command that takes all of its words is not given both flags, and neither are the commands
below it. -/
theorem not_both_of_read {e : Environment} {b : Branch} {s : Scan} {words : List String}
    {levels : List CommandLevel} (h : read e b s words = .ok levels) :
    ∀ level ∈ levels, ¬ (level.gives .verbose ∧ level.gives .quiet) := by
  induction words generalizing b s levels with
  | nil =>
      obtain ⟨given, hfinish, rfl⟩ := read_nil_eq_ok_iff.mp h
      obtain ⟨settled, -, -, -, hnot, -⟩ := Scan.finish_eq_ok_iff.mp hfinish
      rintro level hlevel
      obtain rfl := List.mem_singleton.mp hlevel
      exact hnot
  | cons word words ih =>
      obtain ⟨s', -, hrest⟩ | ⟨child, below, given, -, hbelow, hfinish, rfl⟩ := read_cons_cases h
      · exact ih hrest
      · obtain ⟨settled, -, -, -, hnot, -⟩ := Scan.finish_eq_ok_iff.mp hfinish
        rintro level hlevel
        obtain rfl | hlevel := List.mem_cons.mp hlevel
        · exact hnot
        · exact ih hbelow level hlevel

theorem isGiven_iff {levels : List CommandLevel} {a : Argument} :
    isGiven levels a = true ↔ ∃ level ∈ levels, level.gives a :=
  List.any_eq_true

end CommandLevel

/-! ### The flags of a command line -/

open CommandLevel

theorem CommandLine.read_eq_ok_iff {e : Environment} {words : List String} {line : CommandLine} :
    CommandLine.read e words = .ok line ↔
      ∃ levels, CommandLevel.read e .root .start words = .ok levels ∧
        commandLine e levels = line := by
  simp only [CommandLine.read, bind, Except.bind, pure, Except.pure]
  cases CommandLevel.read e .root .start words with
  | error fault => simp
  | ok levels => simp

/-- **Verbose and quiet exclude each other at each command, and nowhere else.**  An accepted command
line gives both flags to none of its commands, and it is both verbose and quiet exactly if one of
them is given the one flag and another one the other. -/
theorem verbose_and_quiet_iff {e : Environment} {words : List String} {line : CommandLine}
    (h : CommandLine.read e words = .ok line) :
    ∃ levels, CommandLevel.read e .root .start words = .ok levels ∧
      (∀ level ∈ levels, ¬ (level.gives .verbose ∧ level.gives .quiet)) ∧
      (line.verbose ∧ line.quiet ↔
        ∃ one ∈ levels, ∃ other ∈ levels,
          one ≠ other ∧ one.gives .verbose ∧ other.gives .quiet) := by
  obtain ⟨levels, hread, rfl⟩ := CommandLine.read_eq_ok_iff.mp h
  have hnot := not_both_of_read hread
  refine ⟨levels, hread, hnot, ?_⟩
  change isGiven levels .verbose = true ∧ isGiven levels .quiet = true ↔ _
  rw [isGiven_iff, isGiven_iff]
  constructor
  · rintro ⟨⟨one, hone, hv⟩, other, hother, hq⟩
    refine ⟨one, hone, other, hother, ?_, hv, hq⟩
    rintro rfl
    exact hnot one hone ⟨hv, hq⟩
  · rintro ⟨one, hone, other, hother, -, hv, hq⟩
    exact ⟨⟨one, hone, hv⟩, other, hother, hq⟩

/-- The flags in front of a command and behind it, one at each of two commands. -/
theorem verbose_and_quiet_around :
    let e : Environment := ⟨none, none, none, none, "home", none⟩
    let line : CommandLine := ⟨true, true, false, false, none, some (.users ⟨none, none, none⟩)⟩
    CommandLine.read e ["-v", "users", "-q"] = .ok line ∧
      ∃ levels, CommandLevel.read e .root .start ["-v", "users", "-q"] = .ok levels ∧
        ∀ level ∈ levels, ¬ (level.gives .verbose ∧ level.gives .quiet) := by
  intro e line
  have hread : CommandLine.read e ["-v", "users", "-q"] = .ok line := by
    rfl
  obtain ⟨levels, hlevels, hnot, -⟩ := verbose_and_quiet_iff hread
  exact ⟨hread, levels, hlevels, hnot⟩

/-- An accepted command line can be both verbose and quiet. -/
theorem verbose_and_quiet_accepted :
    ¬ ∀ (e : Environment) (words : List String) (line : CommandLine),
      CommandLine.read e words = .ok line → ¬ (line.verbose ∧ line.quiet) := by
  intro h
  let e : Environment := ⟨none, none, none, none, "home", none⟩
  exact h e ["-v", "users", "-q"] ⟨true, true, false, false, none, some (.users ⟨none, none, none⟩)⟩
    (by rfl) (by decide)

end RecordFilter
