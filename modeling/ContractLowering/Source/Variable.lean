import ContractLowering.Source.Member

/-! # Declared variables

A declarator names a variable and may give it an initializer. Of a call only the callee's
name and the values of the arguments are kept.
-/

namespace ContractLowering.Source

/-- A call argument, reduced to its value; without a number or a text it is its kind. -/
inductive Argument where
  | number (value : Number)
  | text (value : String)
  | other (kind : String)
  deriving DecidableEq

def Argument.describe : Argument → String
  | number _ => "number"
  | text _ => "string"
  | other kind => kind

inductive Initializer where
  | text (value : String)
  | boolean (value : Bool)
  | call (callee : String) (arguments : List Argument)
  | other (kind : String)
  deriving DecidableEq

structure Variable where
  name : String
  initializer : Option Initializer
  deriving DecidableEq

def Argument.read (location : Location) (value : Json) : Except Failure Argument := do
  let members ← value.node location
  match members.get? "value" with
  | some (.number n) => return .number n
  | some (.text s) => return .text s
  | _ => return .other (members.kind?.getD "unknown")

def Initializer.read (location : Location) (value : Json) : Except Failure Initializer := do
  let members ← value.node location
  let kind ← members.kind location
  if kind = "StringLiteral" then
    return .text (← members.text location "value")
  else if kind = "BooleanLiteral" then
    match ← members.required location "value" with
    | .boolean b => return .boolean b
    | value => malformed location (.booleanValue value.shape)
  else if kind = "CallExpression" then
    let callee ← members.node location "callee"
    let callee ← callee.text location "name"
    let arguments ← members.sequence location "arguments"
    return .call callee (← arguments.mapM (Argument.read location))
  else
    return .other kind

/-- The initializer of a declarator; `null` is as good as none. -/
def Initializer.readOptional (location : Location) :
    Option Json → Except Failure (Option Initializer)
  | none => .ok none
  | some .null => .ok none
  | some value => return some (← Initializer.read location value)

def Variable.read (value : Json) : Except Failure Variable := do
  let members ← value.node (.declarator none)
  let identifier ← members.node (.declarator none) "id"
  let name ← identifier.text (.declarator none) "name"
  let initializer ← Initializer.readOptional (.declarator (some name)) (members.get? "initializer")
  return ⟨name, initializer⟩

end ContractLowering.Source
