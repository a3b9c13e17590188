import ContractLowering.CommandLine.Run
import ContractLowering.Proofs.CommandLine.Directory

/-! # What comes of a run

A run stops at the first step that fails, and then nothing is printed or written. Otherwise the
contract is lowered and its document delivered, to the standard output or to the file that the
arguments name. The exit status tells whether all of this went well and no node failed. All of this
holds in any file system that keeps its laws.
-/

namespace ContractLowering.CommandLine

/-- What is seen of the program from outside: what it tells, and the files that it leaves. -/
structure Observation (Files : Type) extends Response where
  files : Files

/-- What is seen of the program with these words and files, if its log is told in this way. -/
def observe {Files : Type} (system : FileSystem (StateM Files)) (logger : Logger)
    (words : List String) (files : Files) : Observation Files :=
  let (response, after) := (respond system logger words).run files
  ⟨response, after⟩

theorem observe_of_command {Files : Type} {system : FileSystem (StateM Files)} (logger : Logger)
    {words : List String} {command : Command} {files after : Files} {report : Report}
    (h : Command.ofArguments? words = some command)
    (hrun : (command.perform system).run files = (report, after)) :
    observe system logger words files = ⟨report.response logger, after⟩ := by
  simp only [observe, respond, h, StateT.run_map, hrun]
  rfl

section Loading

variable {Files File : Type} (system : FileSystem (StateM Files)) (files : Files)

namespace Arguments

variable (arguments : Arguments)

/-- The input holds a contract. -/
def HoldsContract (contract : Source.Contract) : Prop :=
  ∃ text, system.HoldsText files arguments.input text ∧ Source.Contract.parse text = .ok contract

/-- The file of the schema holds one; without such a file the schema is empty. -/
inductive HoldsSchema : Schema → Prop
  | empty (notGiven : arguments.schema = none) : HoldsSchema .empty
  | file {path text : String} {schema : Schema} (given : arguments.schema = some path)
      (holds : system.HoldsText files path text) (parsed : Schema.parse? text = some schema) :
      HoldsSchema schema

/-- The contract is loaded and lowered, so that its document can be delivered. -/
def Lowers (lowering : Lowering) : Prop :=
  ∃ contract schema, arguments.HoldsContract system files contract ∧
    arguments.HoldsSchema system files schema ∧
      lower schema arguments.options contract = .ok lowering

/-- A step in front of the delivery fails, after all earlier ones succeeded. -/
inductive Stops : Trouble → Prop
  | input {error : FileError}
      (unread : Gives (system.readText arguments.input) files (.error error)) :
      Stops (.input arguments.input error)
  | contract {text : String} {failure : LoadFailure}
      (holds : system.HoldsText files arguments.input text)
      (refused : Source.Contract.parse text = .error failure) :
      Stops (.contract arguments.input failure)
  | schemaFile {contract : Source.Contract} {path : String} {error : FileError}
      (loaded : arguments.HoldsContract system files contract)
      (given : arguments.schema = some path)
      (unread : Gives (system.readText path) files (.error error)) : Stops (.schemaFile path error)
  | schema {contract : Source.Contract} {path text : String}
      (loaded : arguments.HoldsContract system files contract)
      (given : arguments.schema = some path) (holds : system.HoldsText files path text)
      (refused : Schema.parse? text = none) : Stops (.schema path)
  | lowering {contract : Source.Contract} {schema : Schema} {failure : Failure}
      (loaded : arguments.HoldsContract system files contract)
      (known : arguments.HoldsSchema system files schema)
      (failed : lower schema arguments.options contract = .error failure) :
      Stops (.lowering contract.name failure)

end Arguments

variable {system : FileSystem (StateM Files)} {view : FileView Files File} {files : Files}
  {arguments : Arguments}

theorem loadContract_gives {path text : String} (h : system.HoldsText files path text) :
    Gives (loadContract system path) files
      ((Source.Contract.parse text).mapError (Trouble.contract path)) :=
  (h.readText.adapt _).bind (gives_ofExcept files _)

theorem loadContract_unread {path : String} {error : FileError}
    (h : Gives (system.readText path) files (.error error)) :
    Gives (loadContract system path) files (.error (.input path error)) :=
  (h.adapt _).bind_error

theorem Arguments.HoldsContract.load {contract : Source.Contract}
    (h : arguments.HoldsContract system files contract) :
    Gives (loadContract system arguments.input) files (.ok contract) := by
  obtain ⟨text, hholds, hparse⟩ := h
  have hload := loadContract_gives hholds
  rwa [hparse] at hload

theorem loadSchema_gives {path text : String} (h : system.HoldsText files path text) :
    Gives (loadSchema system (some path)) files
      (match Schema.parse? text with
        | some schema => .ok schema
        | none => .error (.schema path)) := by
  apply (h.readText.adapt _).bind
  cases Schema.parse? text <;> rfl

theorem loadSchema_unread {path : String} {error : FileError}
    (h : Gives (system.readText path) files (.error error)) :
    Gives (loadSchema system (some path)) files (.error (.schemaFile path error)) :=
  (h.adapt _).bind_error

theorem Arguments.HoldsSchema.load {schema : Schema}
    (h : arguments.HoldsSchema system files schema) :
    Gives (loadSchema system arguments.schema) files (.ok schema) := by
  cases h with
  | empty hgiven =>
    rw [hgiven]
    rfl
  | file hgiven hholds hparsed =>
    have hload := loadSchema_gives hholds
    rwa [hparsed, ← hgiven] at hload

end Loading

namespace Arguments

variable {Files File : Type} {system : FileSystem (StateM Files)} {view : FileView Files File}
  {files : Files} {arguments : Arguments}

/-- What comes of the drafting once everything is loaded. -/
theorem draft_of_loaded {contract : Source.Contract} {schema : Schema}
    (hcontract : arguments.HoldsContract system files contract)
    (hschema : arguments.HoldsSchema system files schema) :
    Gives (arguments.draft system) files (lowerDraft arguments.options contract schema) := by
  have hload : Gives (arguments.load system) files (.ok (contract, schema)) :=
    hcontract.load.bind (hschema.load.bind rfl)
  exact (hload.adapt _).bind (gives_ofExcept files _)

theorem draft_of_trouble {trouble : Trouble}
    (h : Gives (arguments.load system) files (.error trouble)) :
    Gives (arguments.draft system) files (.error ⟨[], "", some trouble⟩) :=
  (h.adapt _).bind_error

theorem draft_of_lowers {lowering : Lowering} (h : arguments.Lowers system files lowering) :
    ∃ draft, Gives (arguments.draft system) files (.ok draft) ∧
      draft.document = lowering.contract.document ∧
      (draft.trouble = none ↔ lowering.failures = []) := by
  obtain ⟨contract, schema, hcontract, hschema, hlower⟩ := h
  have hdraft := draft_of_loaded hcontract hschema
  rw [lowerDraft, hlower] at hdraft
  refine ⟨_, hdraft, rfl, ?_⟩
  simp [Lowering.isClean]

theorem draft_of_stops {trouble : Trouble} (h : arguments.Stops system files trouble) :
    ∃ log, Gives (arguments.draft system) files (.error ⟨log, "", some trouble⟩) := by
  -- Before the lowering there is nothing to log.
  cases h with
  | input hunread => exact ⟨[], draft_of_trouble (loadContract_unread hunread).bind_error⟩
  | contract hholds hrefused =>
    have hload := loadContract_gives hholds
    rw [hrefused] at hload
    exact ⟨[], draft_of_trouble hload.bind_error⟩
  | schemaFile hloaded hgiven hunread =>
    have hload := loadSchema_unread hunread
    rw [← hgiven] at hload
    exact ⟨[], draft_of_trouble (hloaded.load.bind hload.bind_error)⟩
  | schema hloaded hgiven hholds hrefused =>
    have hload := loadSchema_gives hholds
    rw [hrefused, ← hgiven] at hload
    exact ⟨[], draft_of_trouble (hloaded.load.bind hload.bind_error)⟩
  | lowering hloaded hknown hfailed =>
    have hdraft := draft_of_loaded hloaded hknown
    rw [lowerDraft, hfailed] at hdraft
    exact ⟨_, hdraft⟩

/-- There is a first step that fails, or there is none. -/
theorem stops_or_lowers (laws : system.Laws view) (arguments : Arguments) (files : Files) :
    (∃ trouble, arguments.Stops system files trouble) ∨
      ∃ lowering, arguments.Lowers system files lowering := by
  -- The steps in the order of a run: each is the first that fails, or the next one is taken.
  rcases laws.readText files arguments.input with ⟨text, hinput⟩ | ⟨error, hunread⟩
  · cases hparse : Source.Contract.parse text with
    | error failure => exact .inl ⟨_, .contract hinput hparse⟩
    | ok contract =>
      have hcontract : arguments.HoldsContract system files contract := ⟨text, hinput, hparse⟩
      have hlower {schema : Schema} (hschema : arguments.HoldsSchema system files schema) :
          (∃ trouble, arguments.Stops system files trouble) ∨
            ∃ lowering, arguments.Lowers system files lowering := by
        cases h : lower schema arguments.options contract with
        | error failure => exact .inl ⟨_, .lowering hcontract hschema h⟩
        | ok lowering => exact .inr ⟨lowering, contract, schema, hcontract, hschema, h⟩
      cases hgiven : arguments.schema with
      | none => exact hlower (.empty hgiven)
      | some path =>
        rcases laws.readText files path with ⟨text, hread⟩ | ⟨error, hunread⟩
        · cases hschema : Schema.parse? text with
          | none => exact .inl ⟨_, .schema hcontract hgiven hread hschema⟩
          | some schema => exact hlower (.file hgiven hread hschema)
        · exact .inl ⟨_, .schemaFile hcontract hgiven hunread⟩
  · exact .inl ⟨_, .input hunread⟩

end Arguments

section Runs

variable {Files File : Type} {system : FileSystem (StateM Files)} {view : FileView Files File}
  {files : Files} {arguments : Arguments}

theorem Report.exitStatus_eq_zero {report : Report} :
    report.exitStatus = 0 ↔ report.trouble = none := by
  cases htrouble : report.trouble <;> simp [exitStatus, succeeded, htrouble]

theorem Report.exitStatus_eq (report : Report) :
    report.exitStatus = 0 ∨ report.exitStatus = 1 := by
  rw [exitStatus]
  split
  · exact .inl rfl
  · exact .inr rfl

/-- A run without a draft ends with the report of it. -/
theorem perform_of_error {report : Report}
    (h : Gives (arguments.draft system) files (.error report)) :
    (arguments.perform system).run files = (report, files) := by
  rw [Arguments.perform, run_bind_of_eq h]
  rfl

example : (Command.run (.lower ⟨"c.json", none, none, false, false⟩) []).report.exitStatus = 1 := by
  decide +kernel

theorem perform_printed {draft : Draft} (h : Gives (arguments.draft system) files (.ok draft))
    (hnone : arguments.output = none) :
    (arguments.perform system).run files = (draft.printed, files) := by
  rw [Arguments.perform, run_bind_of_eq h]
  simp only [hnone]
  rfl

theorem perform_written {draft : Draft} (h : Gives (arguments.draft system) files (.ok draft))
    {path : String} (hpath : arguments.output = some path) {result : Except FileError Unit}
    {after : Files}
    (hwrite : (system.write path draft.document.toUTF8).run.run files = (result, after)) :
    (arguments.perform system).run files = (draft.written path result, after) := by
  rw [Arguments.perform, run_bind_of_eq h]
  simp only [hpath]
  rw [run_bind_of_eq hwrite]
  rfl

/-- What is seen of a run that goes as far as to deliver a document. -/
inductive Delivered (system : FileSystem (StateM Files)) (view : FileView Files File)
    (document : String) (before : Files) (seen : Observation Files) : Option String → Prop
  | printed (stdout : seen.stdout = document) (untouched : seen.files = before) :
      Delivered system view document before seen none
  | written {path : String} (accepted : system.Accepts before path document)
      (silent : seen.stdout = "") (replaces : view.Replaces before seen.files path document.toUTF8)
      (readBack : ∀ content, Gives (system.read path) seen.files (.ok content) →
        content = document.toUTF8) :
      Delivered system view document before seen (some path)
  | refused {path : String} (refused : ¬ system.Accepts before path document)
      (silent : seen.stdout = "") : Delivered system view document before seen (some path)

/-- What a run reports and leaves, once there is a document. -/
theorem perform_of_draft (laws : system.Laws view) (logger : Logger) {draft : Draft}
    (h : Gives (arguments.draft system) files (.ok draft)) :
    ∃ report after, (arguments.perform system).run files = (report, after) ∧
      Delivered system view draft.document files ⟨report.response logger, after⟩ arguments.output ∧
      (report.trouble = none ↔ draft.trouble = none ∧
        ∀ path ∈ arguments.output, system.Accepts files path draft.document) := by
  cases hpath : arguments.output with
  | none => exact ⟨_, _, perform_printed h hpath, .printed rfl rfl, by simp [Draft.printed]⟩
  | some path =>
    cases hwrite : (system.write path draft.document.toUTF8).run.run files with
    | mk result after =>
      refine ⟨_, _, perform_written h hpath hwrite, ?_⟩
      cases result with
      | ok =>
        have haccepts : system.Accepts files path draft.document := ⟨after, hwrite⟩
        constructor
        · exact .written haccepts rfl (laws.replaces hwrite) fun _ => laws.read_back hwrite
        · simp [Draft.written, haccepts]
      | error error =>
        have hrefuses : ¬ system.Accepts files path draft.document := by
          rintro ⟨other, haccepts⟩
          exact nomatch congrArg Prod.fst (hwrite.symm.trans haccepts)
        constructor
        · exact .refused hrefuses rfl
        · simp [Draft.written, hrefuses]

end Runs

/-- The outcome of a run. A step that fails before the delivery leaves nothing but its trouble;
otherwise the document is delivered, even when nodes failed. -/
structure Outcome {Files File : Type} (system : FileSystem (StateM Files))
    (view : FileView Files File) (arguments : Arguments) (before : Files)
    (seen : Observation Files) : Prop where
  status : seen.exitStatus = 0 ∨ seen.exitStatus = 1
  succeeds : seen.exitStatus = 0 ↔
    ∃ lowering, arguments.Lowers system before lowering ∧ lowering.failures = [] ∧
      ∀ path ∈ arguments.output, system.Accepts before path lowering.contract.document
  stops_or_lowers : (∃ trouble, arguments.Stops system before trouble) ∨
    ∃ lowering, arguments.Lowers system before lowering
  stops : ∀ trouble, arguments.Stops system before trouble →
    seen.exitStatus = 1 ∧ seen.stdout = "" ∧ seen.files = before ∧
      ∃ log, seen.stderr = log ++ trouble.text
  lowers : ∀ lowering, arguments.Lowers system before lowering →
    Delivered system view lowering.contract.document before seen arguments.output ∧
      (lowering.failures ≠ [] → seen.exitStatus = 1)

section Outcomes

variable {Files File : Type} {system : FileSystem (StateM Files)} {view : FileView Files File}

theorem observe_of_stops (logger : Logger) {words : List String} {arguments : Arguments}
    {files : Files} (hwords : Command.ofArguments? words = some (.lower arguments))
    {trouble : Trouble} (h : arguments.Stops system files trouble) :
    ∃ log, observe system logger words files =
      ⟨Report.response logger ⟨log, "", some trouble⟩, files⟩ := by
  obtain ⟨log, hdraft⟩ := Arguments.draft_of_stops h
  exact ⟨log, observe_of_command logger hwords (perform_of_error hdraft)⟩

theorem observe_of_lowers (laws : system.Laws view) (logger : Logger) {words : List String}
    {arguments : Arguments} {files : Files}
    (hwords : Command.ofArguments? words = some (.lower arguments)) {lowering : Lowering}
    (h : arguments.Lowers system files lowering) :
    Delivered system view lowering.contract.document files (observe system logger words files)
        arguments.output ∧
      ((observe system logger words files).exitStatus = 0 ↔ lowering.failures = [] ∧
        ∀ path ∈ arguments.output, system.Accepts files path lowering.contract.document) := by
  obtain ⟨draft, hdraft, hdocument, hclean⟩ := Arguments.draft_of_lowers h
  obtain ⟨report, after, hrun, hdelivered, htrouble⟩ := perform_of_draft laws logger hdraft
  rw [hdocument] at hdelivered htrouble
  rw [hclean] at htrouble
  rw [observe_of_command logger hwords hrun]
  exact ⟨hdelivered, Report.exitStatus_eq_zero.trans htrouble⟩

/-- A run with any accepted arguments, on any files, has this outcome. -/
theorem observe_outcome (laws : system.Laws view) (logger : Logger) {words : List String}
    {arguments : Arguments} (files : Files)
    (h : Command.ofArguments? words = some (.lower arguments)) :
    Outcome system view arguments files (observe system logger words files) := by
  have hstops (trouble : Trouble) (hstops : arguments.Stops system files trouble) :
      (observe system logger words files).exitStatus = 1 ∧
        (observe system logger words files).stdout = "" ∧
        (observe system logger words files).files = files ∧
        ∃ log, (observe system logger words files).stderr = log ++ trouble.text := by
    obtain ⟨log, hseen⟩ := observe_of_stops logger h hstops
    rw [hseen]
    exact ⟨rfl, rfl, rfl, _, rfl⟩
  have hstatus : (observe system logger words files).exitStatus = 0 ∨
      (observe system logger words files).exitStatus = 1 := by
    rw [observe_of_command logger h rfl]
    exact Report.exitStatus_eq _
  have hcases := Arguments.stops_or_lowers laws arguments files
  refine ⟨hstatus, ?_, hcases, hstops, ?_⟩
  · constructor
    · intro hzero
      rcases hcases with ⟨trouble, htrouble⟩ | ⟨lowering, hlowers⟩
      · exact absurd ((hstops trouble htrouble).1.symm.trans hzero) (by decide)
      · exact ⟨lowering, hlowers, (observe_of_lowers laws logger h hlowers).2.mp hzero⟩
    · rintro ⟨lowering, hlowers, hsuccess⟩
      exact (observe_of_lowers laws logger h hlowers).2.mpr hsuccess
  · intro lowering hlowers
    obtain ⟨hdelivered, hzero⟩ := observe_of_lowers laws logger h hlowers
    exact ⟨hdelivered, fun hfailures => hstatus.resolve_left fun h => hfailures (hzero.mp h).1⟩

end Outcomes

/-- The document is written although its only element fails. -/
theorem observe_outcome_failing_element :
    let words := ["-o", "out.json", "c.json"]
    let directory : Directory := [("c.json", "\x7b\"name\":\"C\",\"body\":[3]\x7d".toUTF8)]
    let seen := observe Directory.system Verbosity.error words directory
    ∃ lowering : Lowering, lowering.failures.length = 1 ∧ seen.exitStatus = 1 ∧ seen.stdout = "" ∧
      Directory.view.Replaces directory seen.files "out.json"
        lowering.contract.document.toUTF8 := by
  intro words directory seen
  have houtcome : Outcome Directory.system Directory.view
      ⟨"c.json", none, some "out.json", false, false⟩ directory seen :=
    observe_outcome Directory.laws Verbosity.error directory (by decide +kernel)
  have htokens : Token.readAll "\x7b\"name\":\"C\",\"body\":[3]\x7d".toList =
      some [.openObject, .text "name", .colon, .text "C", .comma, .text "body", .colon, .openArray,
        .number (.integer 3), .closeArray, .closeObject] := by decide +kernel
  have hcontract : Source.Contract.parse "\x7b\"name\":\"C\",\"body\":[3]\x7d" =
      .ok ⟨"C", [.number (.integer 3)]⟩ := by
    rw [Source.Contract.parse, Json.parse?, htokens]
    rfl
  obtain ⟨lowering, hlower, hfailures⟩ : ∃ lowering : Lowering,
      lower .empty ⟨.permissive, false⟩ ⟨"C", [.number (.integer 3)]⟩ = .ok lowering ∧
        lowering.failures.length = 1 := ⟨_, rfl, rfl⟩
  obtain ⟨hdelivered, hstatus⟩ := houtcome.lowers lowering
    ⟨_, _, ⟨_, rfl, hcontract⟩, .empty rfl, hlower⟩
  refine ⟨lowering, hfailures, hstatus (List.ne_nil_of_length_pos (by omega)), ?_⟩
  cases hdelivered with
  | written _ hsilent hreplaces _ => exact ⟨hsilent, hreplaces⟩
  | refused hrefused => exact absurd ⟨_, rfl⟩ hrefused

end ContractLowering.CommandLine
