/-! # Arguments

Arguments are read from the left. Help and version are answered as soon as they are met, and
so is an argument that cannot be read; values that are missing and options that are repeated
are found out at the end.
-/

namespace ContractLowering.CommandLine

inductive OptionName where
  | schema
  | output
  deriving DecidableEq

inductive Flag where
  | strict
  | events
  deriving DecidableEq

structure Arguments where
  input : String
  schema : Option String
  output : Option String
  strict : Bool
  events : Bool
  deriving DecidableEq

inductive Command where
  | help
  | version
  | lower (arguments : Arguments)
  deriving DecidableEq

/-- What a single argument is. -/
inductive Argument where
  | endOfOptions
  | help
  | version
  | flag (flag : Flag)
  | option (name : OptionName) (value : Option String)
  | positional
  | unknown
  deriving DecidableEq

def isDash (c : Char) : Bool := c = '-'

def isEquals (c : Char) : Bool := c = '='

/-- A value attached to an option, without the signs in front of it. -/
def attached (value : List Char) : String :=
  String.ofList (value.dropWhile isEquals)

/-- An argument with two dashes in front: a name, and after a sign a value, which flags
ignore. -/
def Argument.ofLong (body : List Char) : Argument :=
  let name := String.ofList (body.takeWhile (!isEquals ·))
  let value := if body.any isEquals then some (attached (body.dropWhile (!isEquals ·))) else none
  if name = "schema" then option .schema value
  else if name = "output" then option .output value
  else if name = "strict" then flag .strict
  else if name = "events" then flag .events
  else if name = "help" then help
  else if name = "version" then version
  else unknown

/-- An argument with one dash in front: a letter, and for an option its value. -/
def Argument.ofShort (letter : Char) (rest : List Char) : Argument :=
  let value := if rest.isEmpty then none else some (attached rest)
  if letter = 's' then option .schema value
  else if letter = 'o' then option .output value
  else if letter = 'h' then help
  else if letter = 'V' then version
  else unknown

def Argument.ofString (argument : String) : Argument :=
  match argument.toList with
  | ['-', '-'] => endOfOptions
  | '-' :: '-' :: body => ofLong (body.dropWhile isDash)
  | '-' :: letter :: rest => ofShort letter rest
  | _ => positional

/-- What has been found so far; an option without a value is kept as such. -/
structure Found where
  input : Option String
  schema : List (Option String)
  output : List (Option String)
  flags : List Flag

namespace Found

def none : Found := ⟨.none, [], [], []⟩

def addOption (found : Found) (name : OptionName) (value : Option String) : Found :=
  match name with
  | .schema => { found with schema := value :: found.schema }
  | .output => { found with output := value :: found.output }

def addFlag (found : Found) (flag : Flag) : Found :=
  { found with flags := flag :: found.flags }

/-- There is one input at most. -/
def addInput (found : Found) (input : String) : Option Found :=
  match found.input with
  | .none => some { found with input := some input }
  | some _ => .none

/-- The value of an option that was found once or not at all. -/
def single? : List (Option String) → Option (Option String)
  | [] => some .none
  | [some value] => some (some value)
  | _ => .none

def finish (found : Found) : Option Command := do
  let input ← found.input
  let schema ← single? found.schema
  let output ← single? found.output
  if found.flags.count .strict ≤ 1 ∧ found.flags.count .events ≤ 1 then
    let has (flag : Flag) : Bool := found.flags.contains flag
    some (.lower ⟨input, schema, output, has .strict, has .events⟩)
  else
    .none

end Found

/-- Arguments after the end of the options. -/
def readPositionals (found : Found) : List String → Option Command
  | [] => found.finish
  | argument :: rest => do readPositionals (← found.addInput argument) rest

/-- Read on after what has been found. An option takes the next argument as its value unless
that is an option or a flag itself. -/
def readFrom (found : Found) (arguments : List String) : Option Command :=
  match arguments with
  | [] => found.finish
  | argument :: rest =>
    match Argument.ofString argument with
    | .endOfOptions => readPositionals found rest
    | .help => some .help
    | .version => some .version
    | .flag flag => readFrom (found.addFlag flag) rest
    | .option name (some value) => readFrom (found.addOption name (some value)) rest
    | .option name none =>
      match rest with
      | [] => readFrom (found.addOption name none) []
      | value :: rest =>
        if Argument.ofString value = .positional then
          readFrom (found.addOption name (some value)) rest
        else
          readFrom (found.addOption name none) (value :: rest)
    | .positional =>
      match found.addInput argument with
      | some found => readFrom found rest
      | none => none
    | .unknown => none
termination_by arguments.length

/-- The command that arguments give, if they give one. -/
def Command.ofArguments? (arguments : List String) : Option Command :=
  readFrom .none arguments

def versionText : String :=
  "ast2sol 0.1.0\n"

def helpText : String :=
  "ast2sol 0.1.0\n" ++
  "Contract AST lowering\n" ++
  "Lowers a parsed contract AST into a Solidity-schema contract AST\n" ++
  "\n" ++
  "USAGE:\n" ++
  "    ast2sol [FLAGS] [OPTIONS] <INPUT>\n" ++
  "\n" ++
  "FLAGS:\n" ++
  "        --events     Emit event definitions declared in the schema\n" ++
  "    -h, --help       Prints help information\n" ++
  "        --strict     Abort on the first node that fails to lower\n" ++
  "    -V, --version    Prints version information\n" ++
  "\n" ++
  "OPTIONS:\n" ++
  "    -o, --output <FILE>    Output file for the lowered AST, stdout if omitted\n" ++
  "    -s, --schema <FILE>    Schema file (YAML) with types and visibility\n" ++
  "\n" ++
  "ARGS:\n" ++
  "    <INPUT>    Input AST file (JSON)\n"

end ContractLowering.CommandLine
