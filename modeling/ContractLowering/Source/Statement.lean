import ContractLowering.Source.Member

/-! # Statements

The only statement that is taken apart is the return of a binary expression over two named
operands. Of every other statement or returned expression the kind is kept.
-/

namespace ContractLowering.Source

inductive Statement where
  | returnBinary (operator left right : String)
  | returnOther (kind : String)
  | other (kind : String)
  deriving DecidableEq

/-- The name of an operand. An operand without one is unsupported when its kind says that it
is no identifier, and malformed otherwise. -/
def readOperand (location : Location) (members : Members) : Except Failure String :=
  match members.get? "name" with
  | some (.text name) => .ok name
  | _ =>
    match members.kind? with
    | some kind =>
      if kind = "Identifier" then
        malformed location .operandName
      else
        unsupported location (.operand kind)
    | none => malformed location .operandName

def Statement.readReturned (location : Location) (members : Members) :
    Except Failure Statement := do
  let kind ← members.kind location
  if kind = "BinaryExpression" then
    let operator ← members.text location "operator"
    let left ← readOperand location (← members.node location "left")
    let right ← readOperand location (← members.node location "right")
    return .returnBinary operator left right
  else
    return .returnOther kind

/-- A statement of the function at this location. -/
def Statement.read (location : Location) (value : Json) : Except Failure Statement := do
  let members ← value.node location
  let kind ← members.kind location
  if kind = "ReturnStatement" then
    readReturned location (← members.node location "argument")
  else
    return .other kind

end ContractLowering.Source
