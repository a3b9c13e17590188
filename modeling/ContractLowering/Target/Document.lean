import ContractLowering.Json.Printer
import ContractLowering.Target.Contract

/-! # Documents of lowered contracts

Every node is an object whose `type` comes first. The expression and visibility of a variable
and the unit of a number are left out when there is none; every other missing part is `null`.
-/

namespace ContractLowering.Target

open Json (text boolean array object null)

/-- The value of a part, or `null`. -/
def orNull {α : Type} (encode : α → Json) : Option α → Json
  | some part => encode part
  | none => null

/-- The member for a part that is left out when there is none. -/
def ifPresent {α : Type} (name : String) (encode : α → Json) : Option α → Members
  | some part => [(name, encode part)]
  | none => []

def texts (values : List String) : Json :=
  array (values.map text)

def tagged (type : String) (members : Members) : Json :=
  object (("type", text type) :: members)

def Literal.toJson : Literal → Json
  | .number numeral unit =>
    tagged "NumberLiteral"
      (("number", Json.text numeral) :: ifPresent "subdenomination" Json.text unit)
  | .text value parts isUnicode =>
    tagged "StringLiteral"
      [("value", Json.text value), ("parts", texts parts),
        ("isUnicode", array (isUnicode.map Json.boolean))]
  | .boolean value => tagged "BooleanLiteral" [("value", Json.boolean value)]

def TypeName.toJson (typeName : TypeName) : Json :=
  tagged "ElementaryTypeName"
    [("name", text typeName.type.text),
      ("stateMutability", orNull (fun m => text m.keyword) typeName.mutability)]

def identifier (name : String) : Json :=
  tagged "Identifier" [("name", text name)]

def Variable.toJson (v : Variable) : Json :=
  tagged "VariableDeclaration"
    ([("typeName", v.typeName.toJson), ("name", orNull text v.name),
        ("identifier", orNull Target.identifier v.identifier)] ++
      ifPresent "expression" Literal.toJson v.expression ++
      ifPresent "visibility" (fun a => text a.keyword) v.visibility ++
      [("isStateVar", boolean v.isStateVar), ("isDeclaredConst", boolean v.isDeclaredConst),
        ("isIndexed", boolean v.isIndexed), ("isImmutable", boolean v.isImmutable),
        ("override", orNull texts v.overrides), ("storageLocation", orNull text v.storageLocation)])

def StateVariable.members (declaration : StateVariable) : Members :=
  [("variables", array (declaration.declared.map Variable.toJson)),
    ("initialValue", orNull Literal.toJson declaration.initialValue)]

def Statement.toJson : Statement → Json
  | returnBinary operator left right =>
    tagged "ReturnStatement"
      [("expression", tagged "BinaryExpression"
        [("operator", text operator), ("left", identifier left), ("right", identifier right)])]

def Function.members (definition : Function) : Members :=
  [("name", text definition.name),
    ("parameters", array (definition.parameters.map Variable.toJson)),
    ("returnParameters", array (definition.results.map Variable.toJson)),
    ("body", tagged "Block" [("statements", array (definition.body.map Statement.toJson))]),
    ("visibility", text definition.visibility.keyword),
    ("modifiers", texts definition.modifiers),
    ("override", orNull texts definition.overrides),
    ("isConstructor", boolean definition.isConstructor),
    ("isReceiveEther", boolean definition.isReceiveEther),
    ("isFallback", boolean definition.isFallback),
    ("isVirtual", boolean definition.isVirtual),
    ("stateMutability", orNull (fun m => text m.keyword) definition.mutability)]

def Event.members (definition : Event) : Members :=
  [("name", text definition.name),
    ("parameters", array (definition.parameters.map Variable.toJson)),
    ("isAnonymous", boolean definition.isAnonymous)]

def SubNode.toJson : SubNode → Json
  | state declaration => tagged "StateVariableDeclaration" declaration.members
  | function definition => tagged "FunctionDefinition" definition.members
  | event definition => tagged "EventDefinition" definition.members

def Contract.toJson (contract : Contract) : Json :=
  tagged "ContractDefinition"
    [("name", text contract.name), ("baseContracts", texts contract.bases),
      ("subNodes", array (contract.subNodes.map SubNode.toJson)), ("kind", text contract.kind)]

/-- The document of a contract: indented, and ended by a line break. -/
def Contract.document (contract : Contract) : String :=
  contract.toJson.indented ++ "\n"

end ContractLowering.Target
