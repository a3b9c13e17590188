import ContractLowering.Proofs.Json.Decoder
import ContractLowering.Target.Document

/-! # Decoding documents of contracts

A decoder for each node of a lowered contract. It asks for the type of the node and looks up
every member by name; what the document leaves out is a part that is missing.
-/

namespace ContractLowering.Target

open Json (text? boolean? items? orNull?)

def keyword? {α : Type} (ofKeyword? : String → Option α) (value : Json) : Option α :=
  value.text?.bind ofKeyword?

def texts? : Json → Option (List String) :=
  items? text?

def identifier? (value : Json) : Option String := do
  (← value.ofType? "Identifier").at? "name" text?

def Literal.ofJson? (value : Json) : Option Literal := do
  match ← value.at? "type" text? with
  | "NumberLiteral" =>
    return .number (← value.at? "number" text?) (← value.ifAt? "subdenomination" text?)
  | "StringLiteral" =>
    return .text (← value.at? "value" text?) (← value.at? "parts" texts?)
      (← value.at? "isUnicode" (items? boolean?))
  | "BooleanLiteral" => return .boolean (← value.at? "value" boolean?)
  | _ => none

def TypeName.ofJson? (value : Json) : Option TypeName := do
  let node ← value.ofType? "ElementaryTypeName"
  return {
    type := .ofSchema (← node.at? "name" text?)
    mutability := ← node.at? "stateMutability" (orNull? (keyword? Mutability.ofKeyword?)) }

def Variable.ofJson? (value : Json) : Option Variable := do
  let node ← value.ofType? "VariableDeclaration"
  return {
    typeName := ← node.at? "typeName" TypeName.ofJson?
    name := ← node.at? "name" (orNull? text?)
    identifier := ← node.at? "identifier" (orNull? identifier?)
    expression := ← node.ifAt? "expression" Literal.ofJson?
    visibility := ← node.ifAt? "visibility" (keyword? Visibility.ofKeyword?)
    isStateVar := ← node.at? "isStateVar" boolean?
    isDeclaredConst := ← node.at? "isDeclaredConst" boolean?
    isIndexed := ← node.at? "isIndexed" boolean?
    isImmutable := ← node.at? "isImmutable" boolean?
    overrides := ← node.at? "override" (orNull? texts?)
    storageLocation := ← node.at? "storageLocation" (orNull? text?) }

def variables? : Json → Option (List Variable) :=
  items? Variable.ofJson?

def StateVariable.ofJson? (node : Json) : Option StateVariable := do
  return {
    declared := ← node.at? "variables" variables?
    initialValue := ← node.at? "initialValue" (orNull? Literal.ofJson?) }

def Statement.ofJson? (value : Json) : Option Statement := do
  let node ← value.ofType? "ReturnStatement"
  let expression ← node.at? "expression" (Json.ofType? "BinaryExpression")
  return .returnBinary (← expression.at? "operator" text?) (← expression.at? "left" identifier?)
    (← expression.at? "right" identifier?)

def block? (value : Json) : Option (List Statement) := do
  (← value.ofType? "Block").at? "statements" (items? Statement.ofJson?)

def Function.ofJson? (node : Json) : Option Function := do
  return {
    name := ← node.at? "name" text?
    parameters := ← node.at? "parameters" variables?
    results := ← node.at? "returnParameters" variables?
    body := ← node.at? "body" block?
    visibility := ← node.at? "visibility" (keyword? Visibility.ofKeyword?)
    modifiers := ← node.at? "modifiers" texts?
    overrides := ← node.at? "override" (orNull? texts?)
    isConstructor := ← node.at? "isConstructor" boolean?
    isReceiveEther := ← node.at? "isReceiveEther" boolean?
    isFallback := ← node.at? "isFallback" boolean?
    isVirtual := ← node.at? "isVirtual" boolean?
    mutability := ← node.at? "stateMutability" (orNull? (keyword? Mutability.ofKeyword?)) }

def Event.ofJson? (node : Json) : Option Event := do
  return {
    name := ← node.at? "name" text?
    parameters := ← node.at? "parameters" variables?
    isAnonymous := ← node.at? "isAnonymous" boolean? }

def SubNode.ofJson? (value : Json) : Option SubNode := do
  match ← value.at? "type" text? with
  | "StateVariableDeclaration" => return .state (← StateVariable.ofJson? value)
  | "FunctionDefinition" => return .function (← Function.ofJson? value)
  | "EventDefinition" => return .event (← Event.ofJson? value)
  | _ => none

def Contract.ofJson? (value : Json) : Option Contract := do
  let node ← value.ofType? "ContractDefinition"
  return {
    name := ← node.at? "name" text?
    bases := ← node.at? "baseContracts" texts?
    subNodes := ← node.at? "subNodes" (items? SubNode.ofJson?)
    kind := ← node.at? "kind" text? }

/-- The contract that a document describes. -/
def Contract.ofDocument? (document : String) : Option Contract :=
  (Json.parse? document).bind Contract.ofJson?

end ContractLowering.Target
