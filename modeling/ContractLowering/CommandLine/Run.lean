import ContractLowering.CommandLine.Arguments
import ContractLowering.CommandLine.Directory
import ContractLowering.CommandLine.Log
import ContractLowering.Schema.Reader
import ContractLowering.Target.Document

/-! # Runs

A run reads its files, lowers the contract, writes the document and reports. What goes wrong
before the document is written leaves every file as it is; nodes that fail to lower do not
keep the document from being written. A run is the same in every file system.
-/

namespace ContractLowering.CommandLine

/-- Why a run fails. -/
inductive Trouble where
  | input (path : String) (error : FileError)
  | contract (path : String) (failure : LoadFailure)
  | schemaFile (path : String) (error : FileError)
  | schema (path : String)
  | lowering (name : String) (failure : Failure)
  | output (path : String) (error : FileError)
  | unclean (count : Nat) (name : String)

namespace Trouble

def message : Trouble → String
  | input path _ => "Failed to read input file: " ++ path
  | contract path _ => "Failed to load contract from " ++ path
  | schemaFile path _ => "Failed to read schema file: " ++ path
  | schema path => "Invalid schema in " ++ path
  | lowering name _ => "Failed to lower " ++ name
  | output path _ => "Failed to write output file: " ++ path
  | unclean count name => toString count ++ " node(s) of " ++ name ++ " failed to lower"

/-- The lines about a sole cause; its later lines are indented like the first. -/
def soleCause (cause : String) : String :=
  "\nCaused by:\n    " ++ cause.replace "\n" "\n    " ++ "\n"

/-- The lines about the first of several causes. -/
def firstCause (cause : String) : String :=
  "\nCaused by:\n    0: " ++ cause.replace "\n" "\n       " ++ "\n"

def causes : Trouble → String
  | input _ error => soleCause error.message
  | contract _ .notDocument => firstCause LoadFailure.notDocument.message
  | contract _ (.root failure) => soleCause failure.message
  | schemaFile _ error => soleCause error.message
  | schema _ => firstCause Schema.readMessage
  | lowering _ failure => soleCause failure.message
  | output _ error => soleCause error.message
  | unclean _ _ => ""

/-- The message with its causes. -/
def text (trouble : Trouble) : String :=
  "Error: " ++ trouble.message ++ "\n" ++ trouble.causes

end Trouble

/-- What a run tells. -/
structure Report where
  log : List LogLine
  stdout : String
  trouble : Option Trouble

namespace Report

def help : Report := ⟨[], helpText, none⟩

def version : Report := ⟨[], versionText, none⟩

def succeeded (report : Report) : Bool :=
  report.trouble.isNone

def exitStatus (report : Report) : UInt32 :=
  if report.succeeded then 0 else 1

def stderr (logger : Logger) (report : Report) : String :=
  logger.text report.log ++ (report.trouble.map Trouble.text).getD ""

end Report

/-- The document of a contract, which is still to be delivered. -/
structure Draft where
  name : String
  log : List LogLine
  document : String
  /-- What makes the run fail even when the document is delivered. -/
  trouble : Option Trouble

namespace Draft

/-- The document is printed. -/
def printed (draft : Draft) : Report :=
  ⟨draft.log, draft.document, draft.trouble⟩

/-- Somebody tried to write the document to a file. -/
def written (draft : Draft) (path : String) : Except FileError Unit → Report
  | .error error => ⟨draft.log, "", some (.output path error)⟩
  | .ok _ =>
    ⟨draft.log ++ [.ofProgram .info ("Lowered " ++ draft.name ++ " to " ++ path)], "",
      draft.trouble⟩

end Draft

/-- Lower a contract up to its document; otherwise there is only something to tell. -/
def lowerDraft (options : Options) (contract : Source.Contract) (schema : Schema) :
    Except Report Draft :=
  let told := (remarks schema options.mode contract).map LogLine.ofRemark
  match lower schema options contract with
  | .error failure => .error ⟨told, "", some (.lowering contract.name failure)⟩
  | .ok lowering => .ok {
      name := contract.name
      log := told ++ lowering.warnings.map .ofWarning ++ lowering.failures.map .ofFailure
      document := lowering.contract.document
      trouble :=
        if lowering.isClean then none
        else some (.unclean lowering.failures.length contract.name) }

section Files

variable {m : Type → Type} [Monad m] (system : FileSystem m)

def loadContract (path : String) : ExceptT Trouble m Source.Contract := do
  let source ← (system.readText path).adapt (Trouble.input path)
  MonadExcept.ofExcept ((Source.Contract.parse source).mapError (Trouble.contract path))

def loadSchema : Option String → ExceptT Trouble m Schema
  | none => return .empty
  | some path => do
    let source ← (system.readText path).adapt (Trouble.schemaFile path)
    match Schema.parse? source with
    | some schema => return schema
    | none => throw (.schema path)

namespace Arguments

def options (arguments : Arguments) : Options :=
  ⟨if arguments.strict then .strict else .permissive, arguments.events⟩

/-- The contract and the schema that the arguments name; the contract comes first. -/
def load (arguments : Arguments) : ExceptT Trouble m (Source.Contract × Schema) := do
  let contract ← loadContract system arguments.input
  let schema ← loadSchema system arguments.schema
  return (contract, schema)

def draft (arguments : Arguments) : ExceptT Report m Draft := do
  let (contract, schema) ← (arguments.load system).adapt fun trouble => ⟨[], "", some trouble⟩
  MonadExcept.ofExcept (lowerDraft arguments.options contract schema)

def perform (arguments : Arguments) : m Report := do
  match ← (arguments.draft system).run with
  | .error report => return report
  | .ok draft =>
    match arguments.output with
    | none => return draft.printed
    | some path => return draft.written path (← (system.write path draft.document.toUTF8).run)

end Arguments

def Command.perform : Command → m Report
  | .help => return .help
  | .version => return .version
  | .lower arguments => arguments.perform system

end Files

/-- What is told to whoever started the program. -/
structure Response where
  exitStatus : UInt32
  stdout : String
  stderr : String

def Report.response (logger : Logger) (report : Report) : Response :=
  ⟨report.exitStatus, report.stdout, report.stderr logger⟩

/-- Perform the command that the words give. Without one there is nothing to do; what is wrong with
the words is not told here. -/
def respond {m : Type → Type} [Monad m] (system : FileSystem m) (logger : Logger)
    (words : List String) : m Response :=
  match Command.ofArguments? words with
  | some command => Report.response logger <$> command.perform system
  | none => return ⟨1, "", logger.text []⟩

/-- What a run in a directory tells and leaves there. -/
structure Run where
  report : Report
  directory : Directory

def Command.run (command : Command) (directory : Directory) : Run :=
  let (report, directory) := (command.perform Directory.system).run directory
  ⟨report, directory⟩

end ContractLowering.CommandLine
