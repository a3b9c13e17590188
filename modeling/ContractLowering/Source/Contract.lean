import ContractLowering.Json.Document
import ContractLowering.Source.Function
import ContractLowering.Source.Variable

/-! # Contracts

A contract is read in two steps: its root at once, the elements of its body one at a time, so
that a malformed element fails alone.
-/

namespace ContractLowering.Source

structure Contract where
  name : String
  body : List Json

/-- A body element: declared variables, still undecoded, a declared function, or a node of
another kind. -/
inductive Element where
  | variableStatement (declarations : List Json)
  | function (declaration : Function)
  | other (kind : String)

def Element.read (value : Json) : Except Failure Element := do
  let members ← value.node .element
  let kind ← members.kind .element
  if kind = "VariableStatement" then
    return .variableStatement (← members.sequence .variableStatement "declarations")
  else if kind = "FunctionDeclaration" then
    return .function (← Function.read members)
  else
    return .other kind

def Contract.readRoot (members : Members) : Except Failure Contract := do
  let name ← members.text (.contract none) "name"
  match members.get? "body" with
  | some (.array body) => return ⟨name, body⟩
  | some value => malformed (.contract (some name)) (.contractBody value.shape)
  | none => malformed (.contract (some name)) (.missing "body")

def Contract.read : Json → Except Failure Contract
  | .object members => readRoot members
  | value => malformed (.contract none) (.notContract value.shape)

end ContractLowering.Source

namespace ContractLowering

/-- Why no contract could be loaded from a text. -/
inductive LoadFailure where
  | notDocument
  | root (failure : Failure)

def LoadFailure.message : LoadFailure → String
  | notDocument => "Failed to parse input AST, invalid JSON"
  | root failure => failure.message

/-- The contract that a text holds. -/
def Source.Contract.parse (source : String) : Except LoadFailure Source.Contract :=
  match Json.parse? source with
  | none => .error .notDocument
  | some value => (Source.Contract.read value).mapError .root

end ContractLowering
