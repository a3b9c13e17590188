import ContractLowering.Proofs.Lowering.Lookup

/-! # Independence of the schema

Whether and how a contract is lowered is decided by its source. Under two schemas a pass fails at
the same nodes and makes the same nodes, which differ at most in the types that no initial value
decides, in the marks of payable addresses, and in the access and mutability of functions.
-/

namespace ContractLowering

namespace Target

/-- Only an address has a mutability, which marks it as payable. -/
def TypeName.OnlyPayable (typeName : TypeName) : Prop :=
  typeName.mutability = none ∨ typeName.mutability = some .payable ∧ typeName.type = .address

/-- Variables that differ at most in their elementary type. -/
def Variable.AgreesButForType (v v' : Variable) : Prop :=
  v' = { v with typeName := { v.typeName with type := v'.typeName.type } }

/-- State variables that differ at most in a type that no initial value decides, and in the mark
of a payable address. -/
structure Variable.AgreesAsState (v v' : Variable) : Prop where
  rest : v' = { v with typeName := v'.typeName }
  type : v.expression ≠ none → v'.typeName.type = v.typeName.type
  onlyPayable : v.typeName.OnlyPayable ∧ v'.typeName.OnlyPayable

structure StateVariable.Agrees (first second : StateVariable) : Prop where
  initialValue : second.initialValue = first.initialValue
  declared : List.Forall₂ Variable.AgreesAsState first.declared second.declared

/-- Functions that differ at most in the types of their parameters and results, their access and
their mutability. -/
structure Function.Agrees (first second : Function) : Prop where
  rest : second = { first with
    parameters := second.parameters
    results := second.results
    visibility := second.visibility
    mutability := second.mutability }
  parameters : List.Forall₂ Variable.AgreesButForType first.parameters second.parameters
  results : List.Forall₂ Variable.AgreesButForType first.results second.results

inductive SubNode.Agrees : SubNode → SubNode → Prop
  | state {first second : StateVariable} (declaration : first.Agrees second) :
      Agrees (.state first) (.state second)
  | function {first second : Function} (definition : first.Agrees second) :
      Agrees (.function first) (.function second)

end Target

open Target (SubNode)

/-- Lowerings that differ at most in what schemas say, and in the warnings about that. -/
structure Lowering.Agrees (first second : Lowering) : Prop where
  failures : second.failures = first.failures
  skipped : second.warnings.filter Warning.isSkipped = first.warnings.filter Warning.isSkipped
  rest : second.contract = { first.contract with subNodes := second.contract.subNodes }
  subNodes : List.Forall₂ SubNode.Agrees first.contract.subNodes second.contract.subNodes

section Nodes

variable (first second : Schema)

/-- A variable without an initial value may have any two types. -/
theorem declare_agrees {name : String} {type type' : Target.ElementaryType}
    {entry entry' : Option Schema.StateEntry} {literal : Option Target.Literal}
    (h : literal ≠ none → type' = type) :
    (SubNode.state (.declare name ⟨type, markPayable type entry⟩ literal)).Agrees
      (.state (.declare name ⟨type', markPayable type' entry'⟩ literal)) := by
  refine .state ⟨rfl, .cons ?_ .nil⟩
  exact ⟨rfl, h, markPayable_eq type entry, markPayable_eq type' entry'⟩

theorem functionOf_agrees (declaration : Source.Function) (body : List Target.Statement) :
    (functionOf first declaration body).Agrees (functionOf second declaration body) where
  rest := rfl
  parameters := by
    simp only [functionOf, loweredParameters, List.forall₂_map_left_iff,
      List.forall₂_map_right_iff, List.forall₂_same]
    exact fun name _ => rfl
  results := .cons rfl .nil

theorem gathered_agrees (contract : Source.Contract) :
    (gathered first false contract).Agrees (gathered second false contract) where
  failures := gathered_failures_eq contract
  skipped := by rw [gathered_skipped_warnings, gathered_skipped_warnings]
  rest := rfl
  subNodes := by
    refine forall₂_subNodes contract (fun name _ => ?_) (fun name inferred _ => ?_)
      fun declaration body _ => .function (functionOf_agrees first second declaration body)
    · exact declare_agrees fun h => absurd rfl h
    · exact declare_agrees fun _ => rfl

end Nodes

/-- The schema has no say in what fails and in what is lowered: permissive passes under any two
schemas agree, and strict passes fail with the same failure or succeed with what agrees. -/
theorem lower_agrees (first second : Schema) (source : Source.Contract) :
    ∃ lowering other,
      lower first ⟨.permissive, false⟩ source = .ok lowering ∧
      lower second ⟨.permissive, false⟩ source = .ok other ∧
      lowering.Agrees other ∧
      match lowering.failures.head? with
      | none =>
        lower first ⟨.strict, false⟩ source = .ok lowering ∧
          lower second ⟨.strict, false⟩ source = .ok other
      | some failure =>
        lower first ⟨.strict, false⟩ source = .error failure ∧
          lower second ⟨.strict, false⟩ source = .error failure := by
  have hagrees := gathered_agrees first second source
  refine ⟨_, _, lower_permissive first false source, lower_permissive second false source,
    hagrees, ?_⟩
  rw [lower_strict, lower_strict, hagrees.failures]
  cases (gathered first false source).failures.head? with
  | none => exact ⟨rfl, rfl⟩
  | some failure => exact ⟨rfl, rfl⟩

end ContractLowering
