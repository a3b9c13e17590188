import ContractLowering.Diagnostic.Location
import ContractLowering.Json.Value

/-! # Failures

A node fails to lower because it is malformed or because it is a construct that has no
counterpart in the target. The wording of each cause is fixed here.
-/

namespace ContractLowering

/-- What is wrong with a malformed node. -/
inductive Defect where
  | notContract (found : Shape)
  | notNode (found : Shape)
  | missing (member : String)
  | memberNotText (member : String) (found : Shape)
  | memberNotNode (member : String) (found : Shape)
  | memberNotSequence (member : String) (found : Shape)
  | contractBody (found : Shape)
  | functionBody (found : Shape)
  | booleanValue (found : Shape)
  | parameterName (found : Shape)
  | operandName
  | noArgument (callee : String)
  | manyArguments (callee : String) (count : Nat)
  | argumentValue (callee : String) (found : String)
  deriving DecidableEq

namespace Defect

def text : Defect → String
  | notContract found => "expected a contract node, found " ++ found.name
  | notNode found => "expected a node, found " ++ found.name
  | missing member => "missing " ++ quoted member
  | memberNotText member found => quoted member ++ " is a " ++ found.name ++ ", not a string"
  | memberNotNode member found => quoted member ++ " is a " ++ found.name ++ ", not a node"
  | memberNotSequence member found => quoted member ++ " is a " ++ found.name ++ ", not a sequence"
  | contractBody found => quoted "body" ++ " is not a sequence, found " ++ found.name
  | functionBody found =>
    quoted "body" ++ " is neither a block nor a sequence, found " ++ found.name
  | booleanValue found => "BooleanLiteral " ++ quoted "value" ++ " is a " ++ found.name
  | parameterName found => "parameter " ++ quoted "name" ++ " is a " ++ found.name
  | operandName => "operand is missing " ++ quoted "name"
  | noArgument callee => quoted (callee ++ "(..)") ++ " called without an argument"
  | manyArguments callee count =>
    quoted (callee ++ "(..)") ++ " takes one argument, got " ++ toString count
  | argumentValue callee found =>
    quoted (callee ++ "(..)") ++ " argument has a " ++ found ++ " value"

end Defect

/-- What the target has no counterpart for. -/
inductive Construct where
  | node (kind : String)
  | constructor (callee : String)
  | returned (kind : String)
  | operand (kind : String)
  | uint8 (number : Number)
  deriving DecidableEq

namespace Construct

def text : Construct → String
  | node kind => kind
  | constructor callee => callee
  | returned kind => "ReturnStatement of " ++ kind
  | operand kind => kind ++ " operand"
  | uint8 number => "u8(" ++ number.text ++ ") outside the uint8 range"

end Construct

inductive Cause where
  | malformed (defect : Defect)
  | unsupported (construct : Construct)
  deriving DecidableEq

structure Failure where
  location : Location
  cause : Cause
  deriving DecidableEq

/-- The report on a malformed node. -/
def malformedMessage (location : Location) (detail : String) : String :=
  "malformed input at " ++ location.text ++ ": " ++ detail

/-- The report on an unsupported construct. -/
def unsupportedMessage (location : Location) (construct : String) : String :=
  "unsupported construct " ++ quoted construct ++ " at " ++ location.text

namespace Failure

def malformed (location : Location) (defect : Defect) : Failure :=
  ⟨location, .malformed defect⟩

def unsupported (location : Location) (construct : Construct) : Failure :=
  ⟨location, .unsupported construct⟩

def message (failure : Failure) : String :=
  match failure.cause with
  | .malformed defect => malformedMessage failure.location defect.text
  | .unsupported construct => unsupportedMessage failure.location construct.text

end Failure

end ContractLowering
