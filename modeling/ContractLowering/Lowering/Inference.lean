import ContractLowering.Source.Variable
import ContractLowering.Target.Contract

/-! # Types and literals of initializers

An initializer decides the type of its variable on its own. Calls are checked in a fixed
order: the callee, the number of arguments, the value of the argument.
-/

namespace ContractLowering

structure Inferred where
  type : Target.ElementaryType
  literal : Target.Literal
  deriving DecidableEq

/-- The numeral of a number between 0 and 255, in whatever form it was written. -/
def uint8Numeral? (number : Number) : Option String :=
  match number.toNat? with
  | some value => if value ≤ 255 then some (Nat.repr value) else none
  | none => none

/-- The literal that a value makes under the constructor of a type. -/
def constructed (location : Location) (callee : String) :
    Target.ElementaryType → Source.Argument → Except Failure Target.Literal
  | .uint8, .number number =>
    match uint8Numeral? number with
    | some numeral => .ok (.ofNumeral numeral)
    | none => unsupported location (.uint8 number)
  | .address, .text address => .ok (.ofNumeral address)
  | _, argument => malformed location (.argumentValue callee argument.describe)

def inferCall (location : Location) (callee : String) (arguments : List Source.Argument) :
    Except Failure Inferred :=
  match Target.ElementaryType.ofConstructor? callee with
  | none => unsupported location (.constructor callee)
  | some type =>
    match arguments with
    | [argument] => do return ⟨type, ← constructed location callee type argument⟩
    | [] => malformed location (.noArgument callee)
    | arguments => malformed location (.manyArguments callee arguments.length)

def infer (location : Location) : Source.Initializer → Except Failure Inferred
  | .text value => .ok ⟨.string, .ofText value⟩
  | .boolean value => .ok ⟨.bool, .boolean value⟩
  | .call callee arguments => inferCall location callee arguments
  | .other kind => unsupported location (.node kind)

end ContractLowering
