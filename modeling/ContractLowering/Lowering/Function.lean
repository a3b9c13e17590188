import ContractLowering.Lowering.Variable
import ContractLowering.Source.Function
import ContractLowering.Source.Statement

/-! # Lowering of declared functions

Types, visibility and mutability come from the schema's definition of the same name. The
first statement that fails to lower fails the whole function, and then nothing is warned
about.
-/

namespace ContractLowering

/-- Only the return of a binary expression has a counterpart. -/
def lowerStatement (location : Location) : Source.Statement → Except Failure Target.Statement
  | .returnBinary operator left right => .ok (.returnBinary operator left right)
  | .returnOther kind => unsupported location (.returned kind)
  | .other kind => unsupported location (.node kind)

def lowerParameter (definition : Option Schema.Definition) (function name : String) :
    Lowered Target.Variable :=
  let type := resolve (.parameter function name)
    ((definition.bind (·.parameter? name)).map (·.type))
  ⟨.parameter name (.plain type.node), type.warnings⟩

def lowerBody (location : Location) (body : List Json) : Except Failure (List Target.Statement) :=
  body.mapM fun statement => do lowerStatement location (← Source.Statement.read location statement)

def lowerFunction (schema : Schema) (function : Source.Function) :
    Except Failure (Lowered Target.Function) := do
  let name := function.name
  let definition := schema.definition? name
  let parameters := function.parameters.map (lowerParameter definition name)
  let result := resolve (.result name) (definition.bind (·.type))
  let keywords := (definition.map (·.keywords)).getD []
  let body ← lowerBody (.functionDeclaration (some name)) function.body
  let lowered : Target.Function :=
    { name := name
      parameters := parameters.map (·.node)
      results := [.slot (.plain result.node)]
      body := body
      visibility := (keywords.findSome? Target.Visibility.ofKeyword?).getD .publicAccess
      modifiers := []
      overrides := none
      isConstructor := false
      isReceiveEther := false
      isFallback := false
      isVirtual := false
      mutability := keywords.findSome? Target.Mutability.ofKeyword? }
  return ⟨lowered, parameters.flatMap (·.warnings) ++ result.warnings⟩

end ContractLowering
