import ContractLowering.CommandLine.Arguments

/-! # Arguments with an output file

Words that are whole arguments are read one argument at a time, so the words of an output file
can stand behind any of them. Arguments without an output file then have this one, and
everything else is found as before.
-/

namespace ContractLowering.CommandLine

/-- Whole arguments in front of the end of the options, from what has been found before them to
what has been found behind them. -/
inductive Reads : Found → List String → Found → Prop
  | nil {found : Found} : Reads found [] found
  | flag {found after : Found} {word : String} {words : List String} {flag : Flag}
      (isFlag : Argument.ofString word = .flag flag)
      (rest : Reads (found.addFlag flag) words after) : Reads found (word :: words) after
  | attached {found after : Found} {word value : String} {words : List String} {name : OptionName}
      (isOption : Argument.ofString word = .option name (some value))
      (rest : Reads (found.addOption name (some value)) words after) :
      Reads found (word :: words) after
  | separate {found after : Found} {word value : String} {words : List String} {name : OptionName}
      (isOption : Argument.ofString word = .option name none)
      (isValue : Argument.ofString value = .positional)
      (rest : Reads (found.addOption name (some value)) words after) :
      Reads found (word :: value :: words) after
  | positional {found next after : Found} {word : String} {words : List String}
      (isPositional : Argument.ofString word = .positional)
      (added : found.addInput word = some next) (rest : Reads next words after) :
      Reads found (word :: words) after

theorem Reads.readFrom_append {found after : Found} {words : List String}
    (h : Reads found words after) (rest : List String) :
    readFrom found (words ++ rest) = readFrom after rest := by
  induction h with
  | nil => rfl
  | flag isFlag _ ih => simp only [List.cons_append, readFrom, isFlag, ih]
  | attached isOption _ ih => simp only [List.cons_append, readFrom, isOption, ih]
  | separate isOption isValue _ ih =>
    simp only [List.cons_append, readFrom, isOption, isValue, if_true, ih]
  | positional isPositional added _ ih =>
    simp only [List.cons_append, readFrom, isPositional, added, ih]

/-- The words that give an output file: one word, or two where the path does not begin like an
option. -/
inductive GivesOutput (path : String) : List String → Prop
  | attached {word : String} (isOption : Argument.ofString word = .option .output (some path)) :
      GivesOutput path [word]
  | separate {word : String} (isOption : Argument.ofString word = .option .output none)
      (isValue : Argument.ofString path = .positional) : GivesOutput path [word, path]

theorem GivesOutput.reads {path : String} {words : List String} (h : GivesOutput path words)
    (found : Found) : Reads found words (found.addOption .output (some path)) := by
  cases h with
  | attached isOption => exact .attached isOption .nil
  | separate isOption isValue => exact .separate isOption isValue .nil

theorem Argument.ofString_of_head {word : String} (h : word.toList.head? ≠ some '-') :
    Argument.ofString word = .positional := by
  rw [ofString]
  split <;> simp_all

/-- Each path can be given. -/
theorem exists_givesOutput (path : String) : ∃ words, GivesOutput path words := by
  -- A path with a dash in front is attached; as a word of its own it may be taken for an option.
  by_cases hdash : path.toList.head? = some '-'
  · obtain ⟨rest, hpath⟩ := List.head?_eq_some_iff.mp hdash
    refine ⟨["-o" ++ path], .attached ?_⟩
    have hword : ("-o" ++ path).toList = '-' :: 'o' :: '-' :: rest := by
      rw [String.toList_append, hpath]
      rfl
    have hvalue : attached ('-' :: rest) = path := by
      rw [attached, List.dropWhile_cons_of_neg (by decide), ← hpath, String.ofList_toList]
    simp [Argument.ofString, hword, Argument.ofShort, hvalue]
  · exact ⟨["-o", path], .separate (by decide) (Argument.ofString_of_head hdash)⟩

example : GivesOutput "-" ["--output=-"] := .attached (by decide)

/-- A reader comes to these arguments. The output files that were found before it stay at the
end of those that it finds, and nothing else depends on them. -/
def ComesTo (arguments : Arguments) (read : Found → Option Command) (found : Found) : Prop :=
  ∃ (last : Found) (more : List (Option String)), last.finish = some (.lower arguments) ∧
    last.output = more ++ found.output ∧
    ∀ outputs, read { found with output := outputs } =
      Found.finish { last with output := more ++ outputs }

namespace ComesTo

variable {arguments : Arguments} {read : Found → Option Command} {found : Found}

theorem finish (h : found.finish = some (.lower arguments)) :
    ComesTo arguments Found.finish found :=
  ⟨found, [], h, rfl, fun _ => rfl⟩

theorem addFlag {flag : Flag} (h : ComesTo arguments read (found.addFlag flag)) :
    ComesTo arguments (fun found => read (found.addFlag flag)) found :=
  h

theorem addOption {name : OptionName} {value : Option String}
    (h : ComesTo arguments read (found.addOption name value)) :
    ComesTo arguments (fun found => read (found.addOption name value)) found := by
  obtain ⟨last, more, hfinish, houtput, hread⟩ := h
  cases name with
  | schema => exact ⟨last, more, hfinish, houtput, hread⟩
  | output =>
    refine ⟨last, more ++ [value], hfinish, ?_, fun outputs => ?_⟩
    · rw [houtput, List.append_assoc]
      rfl
    · rw [List.append_assoc]
      exact hread (value :: outputs)

theorem addInput {input : String} {next : Found} (hnext : found.addInput input = some next)
    (h : ComesTo arguments read next) :
    ComesTo arguments (fun found => found.addInput input >>= read) found := by
  cases hinput : found.input with
  | some _ => simp [Found.addInput, hinput] at hnext
  | none =>
    obtain rfl : { found with input := some input } = next := by
      simpa [Found.addInput, hinput] using hnext
    obtain ⟨last, more, hfinish, houtput, hread⟩ := h
    refine ⟨last, more, hfinish, houtput, fun outputs => ?_⟩
    simp only [Found.addInput, hinput]
    exact hread outputs

end ComesTo

section Readers

variable {arguments : Arguments} {found : Found} {words : List String}

theorem readPositionals_comesTo (h : readPositionals found words = some (.lower arguments)) :
    ComesTo arguments (readPositionals · words) found := by
  induction words generalizing found with
  | nil => exact .finish h
  | cons word words ih =>
    obtain ⟨next, hnext, hrest⟩ := Option.bind_eq_some_iff.mp h
    exact .addInput hnext (ih hrest)

theorem readFrom_comesTo (h : readFrom found words = some (.lower arguments)) :
    ComesTo arguments (readFrom · words) found := by
  induction found, words using readFrom.induct with
  | case1 found =>
    simp only [readFrom] at h ⊢
    exact .finish h
  | case2 found word rest hword =>
    simp only [readFrom, hword] at h ⊢
    exact readPositionals_comesTo h
  | case3 found word rest hword => simp [readFrom, hword] at h
  | case4 found word rest hword => simp [readFrom, hword] at h
  | case5 found word rest flag hword ih =>
    simp only [readFrom, hword] at h ⊢
    exact .addFlag (ih h)
  | case6 found word rest name value hword ih =>
    simp only [readFrom, hword] at h ⊢
    exact .addOption (ih h)
  -- An option that has lost its value is found as such; only the end of the reading objects to it.
  | case7 found word name hword ih =>
    simp only [readFrom, hword] at h ih ⊢
    exact .addOption (.finish h)
  | case8 found word name hword value rest hvalue ih =>
    simp only [readFrom, hword, hvalue, if_true] at h ⊢
    exact .addOption (ih h)
  | case9 found word name hword value rest hvalue ih =>
    have hread (found : Found) : readFrom found (word :: value :: rest) =
        readFrom (found.addOption name none) (value :: rest) := by
      rw [readFrom, hword]
      simp only [hvalue, if_false]
    simp only [hread] at h ⊢
    exact .addOption (ih h)
  | case10 found word rest hword next hnext ih =>
    have hread (found : Found) : readFrom found (word :: rest) =
        found.addInput word >>= (readFrom · rest) := by
      rw [readFrom, hword]
      cases found.addInput word <;> rfl
    simp only [hread, hnext] at h ⊢
    exact .addInput hnext (ih h)
  | case11 found word rest hword hnext => simp [readFrom, hword, hnext] at h
  | case12 found word rest hword => simp [readFrom, hword] at h

/-- Without an output file, there is room for one. -/
theorem Found.finish_giveOutput (path : String) (h : found.finish = some (.lower arguments))
    (hnone : arguments.output = .none) :
    found.output = [] ∧ Found.finish { found with output := [some path] } =
      some (.lower { arguments with output := some path }) := by
  simp only [finish, Option.bind_eq_bind, Option.bind_eq_some_iff] at h
  obtain ⟨input, hinput, schema, hschema, output, houtput, h⟩ := h
  obtain ⟨hflags, h⟩ := (Option.ite_none_right_eq_some ..).mp h
  obtain rfl := Command.lower.inj (Option.some.inj h)
  have hempty : found.output = [] := by
    unfold single? at houtput
    split at houtput
    · assumption
    · obtain rfl := Option.some.inj houtput
      exact nomatch hnone
    · exact nomatch houtput
  refine ⟨hempty, ?_⟩
  simp only [finish, hinput, hschema, Option.bind_eq_bind, Option.bind_some, if_pos hflags]
  rfl

theorem readFrom_giveOutput (path : String) (h : readFrom found words = some (.lower arguments))
    (hnone : arguments.output = none) :
    readFrom (found.addOption .output (some path)) words =
      some (.lower { arguments with output := some path }) := by
  obtain ⟨last, more, hfinish, houtput, hread⟩ := readFrom_comesTo h
  obtain ⟨hempty, hgiven⟩ := Found.finish_giveOutput path hfinish hnone
  obtain ⟨rfl, hfound⟩ := List.append_eq_nil_iff.mp (houtput.symm.trans hempty)
  rw [Found.addOption, hfound, ← hgiven]
  exact hread [some path]

end Readers

/-- These are the words with an output file added behind some whole arguments. -/
def AddsOutput (path : String) (words added : List String) : Prop :=
  ∃ (before given rest : List String) (found : Found), words = before ++ rest ∧
    Reads .none before found ∧ GivesOutput path given ∧ added = before ++ given ++ rest

theorem exists_addsOutput (path : String) (words : List String) :
    ∃ added, AddsOutput path words added := by
  obtain ⟨given, hgiven⟩ := exists_givesOutput path
  exact ⟨_, [], given, words, .none, rfl, .nil, hgiven, rfl⟩

/-- Nothing else among the arguments changes. -/
theorem AddsOutput.ofArguments? {path : String} {words added : List String}
    {arguments : Arguments} (hadds : AddsOutput path words added)
    (h : Command.ofArguments? words = some (.lower arguments)) (hnone : arguments.output = none) :
    Command.ofArguments? added = some (.lower { arguments with output := some path }) := by
  obtain ⟨before, given, rest, found, rfl, hbefore, hgiven, rfl⟩ := hadds
  rw [Command.ofArguments?, hbefore.readFrom_append] at h
  rw [Command.ofArguments?, List.append_assoc, hbefore.readFrom_append,
    (hgiven.reads found).readFrom_append]
  exact readFrom_giveOutput path h hnone

end ContractLowering.CommandLine
