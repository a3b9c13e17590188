import ContractLowering.Proofs.CommandLine.Arguments
import ContractLowering.Proofs.CommandLine.Run

/-! # What does not affect the result

An output file gets what would be printed without it, even a file that the run has read. How
much is logged changes nothing but the log.
-/

namespace ContractLowering.CommandLine

variable {Files File : Type}

/-- Only the log that is told, of the same lines, depends on the setting. -/
def DiffersInLog (logging : Option String → Logger)
    (observed : Option String → Observation Files) : Prop :=
  ∃ (seen : Observation Files) (lines : List LogLine) (report : String), ∀ setting,
    observed setting = { seen with stderr := (logging setting).text lines ++ report }

theorem observe_differsInLog (system : FileSystem (StateM Files))
    (logging : Option String → Logger) (words : List String) (files : Files) :
    DiffersInLog logging fun setting => observe system (logging setting) words files := by
  cases h : Command.ofArguments? words with
  | none =>
    refine ⟨⟨⟨1, "", ""⟩, files⟩, [], "", fun setting => ?_⟩
    simp only [observe, respond, h, String.append_empty]
    rfl
  | some command =>
    cases hrun : (command.perform system).run files with
    | mk report after =>
      refine ⟨⟨⟨report.exitStatus, report.stdout, ""⟩, after⟩, report.log,
        (report.trouble.map Trouble.text).getD "", fun setting => ?_⟩
      exact observe_of_command (logging setting) h hrun

/-- What a run prints, another one leaves in the file under a path instead. -/
structure Redirected (system : FileSystem (StateM Files)) (view : FileView Files File)
    (before : Files) (path : String) (printed written : Observation Files) : Prop where
  status : written.exitStatus = printed.exitStatus
  silent : written.stdout = ""
  untouched : printed.files = before
  document : printed.stdout ≠ "" →
    view.Replaces before written.files path printed.stdout.toUTF8 ∧
      ∀ content, Gives (system.read path) written.files (.ok content) →
        content = printed.stdout.toUTF8
  nothing : printed.stdout = "" → written.files = before

theorem document_ne_empty (contract : Target.Contract) : contract.document ≠ "" := by
  simp [Target.Contract.document]

section Redirections

variable {system : FileSystem (StateM Files)} {view : FileView Files File}

theorem observe_redirected (laws : system.Laws view) (logger other : Logger)
    {words added : List String} {arguments : Arguments} {files : Files} {path : String}
    (hwords : Command.ofArguments? words = some (.lower arguments))
    (hadded : Command.ofArguments? added =
      some (.lower { arguments with output := some path }))
    (hnone : arguments.output = none)
    (haccepts : (observe system logger words files).stdout ≠ "" →
      system.Accepts files path (observe system logger words files).stdout) :
    Redirected system view files path (observe system logger words files)
      (observe system other added files) := by
  -- What is drafted does not depend on where it goes.
  have hdraft : Arguments.draft system { arguments with output := some path } =
      arguments.draft system := rfl
  rcases Arguments.stops_or_lowers laws arguments files with
    ⟨trouble, hstops⟩ | ⟨lowering, hlowers⟩
  · obtain ⟨log, hstopped⟩ := Arguments.draft_of_stops hstops
    rw [observe_of_command logger hwords (perform_of_error hstopped),
      observe_of_command other hadded (perform_of_error (hdraft ▸ hstopped))]
    exact ⟨rfl, rfl, rfl, fun h => absurd rfl h, fun _ => rfl⟩
  · obtain ⟨draft, hlowered, hdocument, -⟩ := Arguments.draft_of_lowers hlowers
    have hprinted := observe_of_command logger hwords (perform_printed hlowered hnone)
    have hne : draft.document ≠ "" := hdocument ▸ document_ne_empty lowering.contract
    rw [hprinted] at haccepts ⊢
    obtain ⟨after, hwrite⟩ := haccepts hne
    rw [observe_of_command other hadded (perform_written (hdraft ▸ hlowered) rfl hwrite)]
    exact ⟨rfl, rfl, rfl, fun _ => ⟨laws.replaces hwrite, fun _ => laws.read_back hwrite⟩,
      fun h => absurd h hne⟩

/-- The setting of the log changes the log alone, however it is read, and an output file only where
the document goes. -/
theorem observe_redirection (laws : system.Laws view) (words : List String) (files : Files) :
    (∀ logging : Option String → Logger,
      DiffersInLog logging fun setting => observe system (logging setting) words files) ∧
    ∀ (arguments : Arguments) (path : String),
      Command.ofArguments? words = some (.lower arguments) → arguments.output = none →
      (∃ added, AddsOutput path words added) ∧
        ∀ (added : List String) (logger other : Logger), AddsOutput path words added →
          ((observe system logger words files).stdout ≠ "" →
            system.Accepts files path (observe system logger words files).stdout) →
          Redirected system view files path (observe system logger words files)
            (observe system other added files) := by
  constructor
  · intro logging
    exact observe_differsInLog system logging words files
  · intro arguments path hwords hnone
    constructor
    · exact exists_addsOutput path words
    · intro added logger other hadds
      exact observe_redirected laws logger other hwords (hadds.ofArguments? hwords hnone) hnone

end Redirections

/-- A document that replaces the input of its own run, which is named in another way. -/
theorem observe_redirection_onto_input :
    let directory : Directory := [("c.json", "\x7b\"name\":\"C\",\"body\":[]\x7d".toUTF8)]
    let printed := observe Directory.system Verbosity.error ["c.json"] directory
    let written :=
      observe Directory.system Verbosity.debug ["c.json", "-o", "./c.json"] directory
    printed.stdout ≠ "" ∧ written.exitStatus = printed.exitStatus ∧ written.stdout = "" ∧
      Directory.view.file? directory "./c.json" = Directory.view.file? directory "c.json" ∧
      Directory.view.Replaces directory written.files "./c.json" printed.stdout.toUTF8 := by
  intro directory printed written
  have hwords : Command.ofArguments? ["c.json"] =
      some (.lower ⟨"c.json", none, none, false, false⟩) := by decide +kernel
  have hadds : AddsOutput "./c.json" ["c.json"] ["c.json", "-o", "./c.json"] :=
    ⟨["c.json"], ["-o", "./c.json"], [], _, rfl, .positional (by decide) rfl .nil,
      .separate (by decide) (by decide), rfl⟩
  have haccepts : Directory.system.Accepts directory "./c.json" printed.stdout := ⟨_, rfl⟩
  have hredirected : Redirected Directory.system Directory.view directory "./c.json" printed
      written :=
    ((observe_redirection Directory.laws ["c.json"] directory).2 _ "./c.json" hwords rfl).2 _
      Verbosity.error Verbosity.debug hadds fun _ => haccepts
  have htokens : Token.readAll "\x7b\"name\":\"C\",\"body\":[]\x7d".toList =
      some [.openObject, .text "name", .colon, .text "C", .comma, .text "body", .colon, .openArray,
        .closeArray, .closeObject] := by decide +kernel
  have hcontract : Source.Contract.parse "\x7b\"name\":\"C\",\"body\":[]\x7d" =
      .ok ⟨"C", []⟩ := by
    rw [Source.Contract.parse, Json.parse?, htokens]
    rfl
  have hlowers : (⟨"c.json", none, none, false, false⟩ : Arguments).Lowers Directory.system
      directory ⟨⟨"C", [], [], "contract"⟩, [], []⟩ := ⟨_, _, ⟨_, rfl, hcontract⟩, .empty rfl, rfl⟩
  have hprinted : printed.stdout ≠ "" := by
    cases (observe_of_lowers Directory.laws Verbosity.error hwords hlowers).1 with
    | printed hstdout _ =>
      rw [hstdout]
      exact document_ne_empty _
  obtain ⟨hreplaces, -⟩ := hredirected.document hprinted
  exact ⟨hprinted, hredirected.status, hredirected.silent, rfl, hreplaces⟩

end ContractLowering.CommandLine
