import ContractLowering.Lowering.Contract
import ContractLowering.Text.ControlSequence
import ContractLowering.Text.Visible
import ContractLowering.Text.WhiteSpace

/-! # Log

What a run has to tell, line by line, and how much of it is wanted. The setting of a log is a list
of directives with a pattern behind it: a line is told if the directive with the longest fitting
origin admits its level, and if the pattern is found in its message.
-/

namespace ContractLowering.CommandLine

inductive Level where
  | error
  | warn
  | info
  | debug
  deriving DecidableEq

/-- Names of levels fill five places. -/
def Level.label : Level → String
  | error => "ERROR"
  | warn => "WARN "
  | info => "INFO "
  | debug => "DEBUG"

structure LogLine where
  level : Level
  /-- The part of the program that has something to tell. -/
  origin : String
  message : String
  deriving DecidableEq

namespace LogLine

/-- Lines after the first are indented, and control sequences leave no trace. -/
def text (line : LogLine) : String :=
  shownText ("[" ++ line.level.label ++ " " ++ line.origin ++ "] " ++
    line.message.replace "\n" "\n    " ++ "\n")

def ofProgram (level : Level) (message : String) : LogLine :=
  ⟨level, "ast2sol", message⟩

def ofWarning (warning : Warning) : LogLine :=
  ofProgram .warn warning.message

def ofFailure (failure : Failure) : LogLine :=
  ofProgram .error failure.message

def ofRemark (remark : Remark) : LogLine :=
  ⟨.debug, "ast2sol::transpiler", match remark with
    | .variable (some name) => "Lowered state variable Some(" ++ visiblyQuoted name ++ ")"
    | .variable none => "Lowered state variable None"
    | .function name => "Lowered function " ++ name
    | .skipped kind index => "Skipping body element #" ++ toString index ++ " of kind " ++ kind⟩

end LogLine

/-- How a log is told. -/
structure Logger where
  /-- What there is to tell about the setting itself. -/
  notice : String
  admits : LogLine → Bool

def Logger.text (logger : Logger) (lines : List LogLine) : String :=
  logger.notice ++ String.join ((lines.filter logger.admits).map LogLine.text)

inductive Verbosity where
  | off
  | error
  | warn
  | info
  | debug
  | trace
  deriving DecidableEq

namespace Verbosity

/-- The case of letters makes no difference. -/
def ofName? (name : String) : Option Verbosity :=
  [("off", off), ("error", error), ("warn", warn), ("info", info), ("debug", debug),
    ("trace", trace)].lookup (name.map Char.toLower)

def admits : Verbosity → Level → Bool
  | off, _ => false
  | error, level => level = .error
  | warn, level => level = .error ∨ level = .warn
  | info, level => level ≠ .debug
  | debug, _ => true
  | trace, _ => true

def logger (verbosity : Verbosity) : Logger :=
  ⟨"", fun line => verbosity.admits line.level⟩

instance : Coe Verbosity Logger := ⟨logger⟩

end Verbosity

/-- How much is told about what an origin has to tell, or about everything. -/
structure Directive where
  origin : Option String
  verbosity : Verbosity
  deriving DecidableEq

namespace Directive

/-- A directive names an origin, a verbosity, or both; what cannot be read comes back. -/
def read (text : String) : Except String Directive :=
  match text.splitOn "=" with
  | [name] =>
    match Verbosity.ofName? name with
    | some verbosity => .ok ⟨none, verbosity⟩
    | none => .ok ⟨some name, .trace⟩
  | [origin, name] =>
    let name := trimmed name
    if name = "" then
      .ok ⟨some origin, .trace⟩
    else
      match Verbosity.ofName? name with
      | some verbosity => .ok ⟨some origin, verbosity⟩
      | none => .error name
  | _ => .error text

/-- The number of octets of the origin. -/
def weight (directive : Directive) : Nat :=
  (directive.origin.map String.utf8ByteSize).getD 0

def covers (directive : Directive) (line : LogLine) : Bool :=
  match directive.origin with
  | some origin => origin.isPrefixOf line.origin
  | none => true

/-- Add a directive in place of the one for the same origin, or behind all others. -/
def insert (directive : Directive) : List Directive → List Directive
  | [] => [directive]
  | known :: others =>
    if known.origin = directive.origin then directive :: others
    else known :: insert directive others

/-- Of the directives that cover a line the longest one counts, and of those the last. -/
def governing? (directives : List Directive) (line : LogLine) : Option Directive :=
  (directives.filter (·.covers line)).foldl (fun heaviest directive =>
    if heaviest.all (·.weight ≤ directive.weight) then some directive else heaviest) none

end Directive

namespace Logger

/-- The warning about a part of a setting. -/
def complaint (part : String) : String :=
  "warning: invalid logging spec " ++ part ++ ", ignoring it\n"

/-- Without directives only errors are told. -/
def ofDirectives (notice : String) (directives : List Directive) (finds : String → Bool) :
    Logger where
  notice := notice
  admits line :=
    let directives := if directives.isEmpty then [⟨none, .error⟩] else directives
    ((Directive.governing? directives line).any (·.verbosity.admits line.level)) &&
      finds line.message

/-- The directives that commas divide, and the warnings about those that cannot be read. -/
def readDirectives (text : String) : List Directive × String :=
  ((text.splitOn ",").map trimmed).foldl (fun (directives, notice) part =>
    if part = "" then (directives, notice)
    else
      match Directive.read part with
      | .ok directive => (directive.insert directives, notice)
      | .error part => (directives, notice ++ complaint ("'" ++ part ++ "'"))) ([], "")

/-- The logger of a setting. How a pattern is found in a message is left open. -/
def ofSetting (finds : String → String → Bool) (setting : Option String) : Logger :=
  match (setting.getD "").splitOn "/" with
  | [text] =>
    let (directives, notice) := readDirectives text
    ofDirectives notice directives fun _ => true
  | [text, pattern] =>
    let (directives, notice) := readDirectives text
    ofDirectives notice directives (finds pattern)
  | _ => ofDirectives (complaint ("'" ++ setting.getD "" ++ "' (too many '/'s)")) [] fun _ => true

end Logger

end ContractLowering.CommandLine
