import ContractLowering.Proofs.Lowering.Draft
import ContractLowering.Proofs.Lowering.TypeSlot

/-! # What a pass looks up

Each draft asks a schema for the types of its slots and for nothing else that is warned about.
What a pass warns about is therefore told beforehand, up to the slots for which the schema has a
type: of the possible warnings those stand that no entry answers.
-/

namespace ContractLowering

open Target (ElementaryType SubNode)

/-- The type that a slot has under a schema. -/
def Schema.typeAt (schema : Schema) (slot : TypeSlot) : ElementaryType :=
  (resolve slot (schema.type? slot)).node

/-- Whether a schema leaves a warning standing. -/
def Warning.stands (schema : Schema) : Warning → Bool
  | unresolved slot => (schema.type? slot).isNone
  | skipped _ _ => true

namespace Draft

/-- The slots that a schema fills. -/
def slots : Draft → List TypeSlot
  | bare name => [.state name]
  | initialized _ _ => []
  | function declaration _ => declaration.typeSlots
  | failed _ => []
  | skipped _ _ => []

/-- All that can be warned about a draft. -/
def warnings : Draft → List Warning
  | skipped kind index => [.skipped kind index]
  | draft => draft.slots.map .unresolved

end Draft

def Source.Contract.possibleWarnings (contract : Source.Contract) : List Warning :=
  contract.drafts.flatMap Draft.warnings

section Types

variable {schema : Schema} {slot : TypeSlot}

theorem Schema.typeAt_of_eq_some {type : String} (h : schema.type? slot = some type) :
    schema.typeAt slot = .ofSchema type := by
  rw [typeAt, h]
  rfl

theorem Schema.typeAt_of_eq_none (h : schema.type? slot = none) :
    schema.typeAt slot = .unresolved := by
  rw [typeAt, h]
  rfl

theorem bareVariable_node (name : String) :
    (bareVariable schema name).node =
      .declare name ⟨schema.typeAt (.state name),
        markPayable (schema.typeAt (.state name)) (schema.stateVariable? name)⟩ none := rfl

theorem lowerParameter_node (function name : String) :
    (lowerParameter (schema.definition? function) function name).node =
      .parameter name (.plain (schema.typeAt (.parameter function name))) := rfl

theorem resultType_node (function : String) :
    (resultType schema function).node = schema.typeAt (.result function) := rfl

theorem bareVariable_typeSlots (name : String) :
    (SubNode.state (bareVariable schema name).node).typeSlots =
      [(.state name, schema.typeAt (.state name))] := rfl

theorem initializedVariable_typeSlots (name : String) (inferred : Inferred) :
    (SubNode.state (initializedVariable schema name inferred)).typeSlots =
      [(.state name, inferred.type)] := rfl

end Types

section Warnings

variable (schema : Schema)

theorem resolve_warnings (slot : TypeSlot) :
    (resolve slot (schema.type? slot)).warnings =
      [Warning.unresolved slot].filter (Warning.stands schema) := by
  cases htype : schema.type? slot <;> simp [resolve, Warning.stands, htype]

theorem resolve_flatMap_warnings (slots : List TypeSlot) :
    (slots.flatMap fun slot => (resolve slot (schema.type? slot)).warnings) =
      (slots.map Warning.unresolved).filter (Warning.stands schema) := by
  rw [← List.flatMap_singleton' (slots.map Warning.unresolved), List.flatMap_map,
    List.filter_flatMap]
  exact List.flatMap_congr fun slot _ => resolve_warnings schema slot

theorem Draft.complete_warnings (draft : Draft) :
    (draft.complete schema).warnings = draft.warnings.filter (Warning.stands schema) := by
  cases draft with
  | bare name => exact resolve_warnings schema (.state name)
  | initialized name inferred => rfl
  | function declaration body =>
    change functionWarnings schema declaration =
      (declaration.typeSlots.map Warning.unresolved).filter (Warning.stands schema)
    rw [functionWarnings_eq_flatMap, resolve_flatMap_warnings]
  | failed failure => rfl
  | skipped kind index => rfl

variable (events : Bool) (contract : Source.Contract)

theorem gathered_warnings_eq_filter :
    (gathered schema events contract).warnings =
      contract.possibleWarnings.filter (Warning.stands schema) := by
  rw [gathered_warnings, outcomes_eq_complete, List.flatMap_map, Source.Contract.possibleWarnings,
    List.filter_flatMap]
  exact List.flatMap_congr fun draft _ => draft.complete_warnings schema

theorem gathered_skipped_warnings :
    (gathered schema events contract).warnings.filter Warning.isSkipped =
      contract.possibleWarnings.filter Warning.isSkipped := by
  rw [gathered_warnings_eq_filter, List.filter_filter]
  refine List.filter_congr fun warning _ => ?_
  cases warning <;> rfl

end Warnings

end ContractLowering
