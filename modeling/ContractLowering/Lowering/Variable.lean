import ContractLowering.Diagnostic.Warning
import ContractLowering.Lowering.Inference
import ContractLowering.Schema.Basic

/-! # Lowering of declared variables

The type of a variable comes from its initializer, or else from the schema. A type that
neither supplies stays unresolved and is warned about.
-/

namespace ContractLowering

/-- A lowered node with the warnings about it. -/
structure Lowered (α : Type) where
  node : α
  warnings : List Warning
  deriving DecidableEq

/-- The type that the schema supplies for a slot, or an unresolved one and a warning. -/
def resolve (slot : TypeSlot) : Option String → Lowered Target.ElementaryType
  | some type => ⟨.ofSchema type, []⟩
  | none => ⟨.unresolved, [.unresolved slot]⟩

/-- Addresses that the schema marks as payable are; other types cannot be. -/
def markPayable (type : Target.ElementaryType) (entry : Option Schema.StateEntry) :
    Option Target.Mutability :=
  if type = .address ∧ entry.any (·.payable) then some .payable else none

def lowerVariable (schema : Schema) (declared : Source.Variable) :
    Except Failure (Lowered Target.StateVariable) := do
  let name := declared.name
  let entry := schema.stateVariable? name
  let declare (type : Target.ElementaryType) (literal : Option Target.Literal) :=
    Target.StateVariable.declare name ⟨type, markPayable type entry⟩ literal
  match declared.initializer with
  | some initializer =>
    let inferred ← infer (.declarator (some name)) initializer
    return ⟨declare inferred.type (some inferred.literal), []⟩
  | none =>
    let type := resolve (.state name) (entry.map (·.type))
    return ⟨declare type.node none, type.warnings⟩

end ContractLowering
