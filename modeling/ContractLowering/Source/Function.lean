import ContractLowering.Source.Member

/-! # Declared functions

The statements of a function stay undecoded, so that a function reports its own shape before
any of its statements.
-/

namespace ContractLowering.Source

structure Function where
  name : String
  parameters : List String
  body : List Json

/-- The name of a parameter, given as a text or by an identifier node. -/
def Function.readParameter (location : Location) (value : Json) : Except Failure String := do
  let members ← value.node location
  match ← members.required location "name" with
  | .text name => .ok name
  | .object identifier => Members.text location identifier "name"
  | value => malformed location (.parameterName value.shape)

/-- The statements of a body: a list, or a block around one. No body has no statements. -/
def Function.readBody (location : Location) : Option Json → Except Failure (List Json)
  | none => .ok []
  | some .null => .ok []
  | some (.array statements) => .ok statements
  | some (.object block) => Members.sequence location block "body"
  | some value => malformed location (.functionBody value.shape)

def Function.read (members : Members) : Except Failure Function := do
  let identifier ← members.node (.functionDeclaration none) "name"
  let name ← identifier.text (.functionDeclaration none) "name"
  let location := Location.functionDeclaration (some name)
  let parameters ← members.sequence location "params"
  let parameters ← parameters.mapM (readParameter location)
  let body ← readBody location (members.get? "body")
  return ⟨name, parameters, body⟩

end ContractLowering.Source
