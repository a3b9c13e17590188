import ContractLowering.Proofs.Lowering.SubNode
import ContractLowering.Proofs.Target.RoundTrip

/-! # Documents determine contracts

Lowering only gives a variable a type that is told by what is written for it: one that an
initializer or a schema names, or an unresolved one. So whatever is lowered can be told from its
document.
-/

namespace ContractLowering

open Target (ElementaryType SubNode)

section Types

theorem resolve_canonical (slot : TypeSlot) (type : Option String) :
    (resolve slot type).node.Canonical := by
  cases type with
  | none => trivial
  | some name => exact ElementaryType.ofSchema_canonical name

theorem Value.type_canonical (value : Value) : value.type.Canonical := by
  cases value <;> trivial

end Types

section Nodes

variable {schema : Schema}

/-- The one variable of a declaration. -/
theorem declare_canonical {name : String} {typeName : Target.TypeName}
    {literal : Option Target.Literal} (h : typeName.type.Canonical) :
    (SubNode.state (.declare name typeName literal)).Canonical :=
  List.forall_mem_singleton.mpr h

theorem variableOf_canonical (name : String) (meaning : Option Value) :
    (SubNode.state (variableOf schema name meaning).node).Canonical := by
  cases meaning with
  | none => exact declare_canonical (resolve_canonical _ _)
  | some denoted => exact declare_canonical denoted.type_canonical

theorem functionOf_canonical (function : Source.Function) (body : List Target.Statement) :
    (SubNode.function (functionOf schema function body)).Canonical := by
  intro v hv
  rcases List.mem_append.mp hv with hparameter | hresult
  · obtain ⟨name, type, rfl⟩ := exists_of_mem_parameters hparameter
    exact resolve_canonical _ _
  · rw [List.eq_of_mem_singleton hresult]
    exact resolve_canonical _ _

theorem lowerEvents_canonical {node : SubNode} (h : node ∈ lowerEvents schema) :
    node.Canonical := by
  obtain ⟨event, _, rfl⟩ := List.mem_map.mp h
  intro v hv
  obtain ⟨parameter, _, rfl⟩ := List.mem_map.mp hv
  exact ElementaryType.ofSchema_canonical parameter.type

end Nodes

theorem lower_canonical {schema : Schema} {options : Options} {source : Source.Contract}
    {lowering : Lowering} (h : lower schema options source = .ok lowering) :
    lowering.contract.Canonical :=
  forall_subNodes (fun name meaning _ => variableOf_canonical name meaning) functionOf_canonical
    (fun _ hnode => lowerEvents_canonical hnode) h

/-- A document is one value and one line break. It is decoded to the contract it was written for,
so that documents are told apart as contracts are, whenever no type is named by the spelling of
another one; no lowered contract has such a type. -/
theorem documents_determine_contracts :
    (∀ contract : Target.Contract, ∃ text : String, contract.document = text ++ "\n" ∧
      text.toList.getLast? = some '}' ∧ Json.parse? text = some contract.toJson.sorted ∧
      Json.parse? contract.document = some contract.toJson.sorted) ∧
    (∀ contract : Target.Contract, contract.Canonical →
      (Json.parse? contract.document).bind Target.Contract.ofJson? = some contract) ∧
    (∀ first second : Target.Contract, first.Canonical → second.Canonical →
      (first.document = second.document ↔ first = second)) ∧
    ∀ (schema : Schema) (options : Options) (source : Source.Contract) (lowering : Lowering),
      lower schema options source = .ok lowering → lowering.contract.Canonical := by
  refine ⟨Target.Contract.document_eq, ?_, ?_, ?_⟩
  · intro contract hcontract
    exact Target.Contract.ofDocument?_document hcontract
  · intro first second hfirst hsecond
    exact Target.Contract.document_eq_iff hfirst hsecond
  · intro schema options source lowering hlower
    exact lower_canonical hlower

/-- An event that a schema declares, under a name that is escaped and with a type that only the
schema names. -/
theorem documents_determine_contracts_event :
    let schema : Schema := ⟨[], [], [("Sent\"\n\x01", [⟨"amount", "uint256"⟩])]⟩
    let plain : Target.Contract := .ofSubNodes "Bank" []
    ∃ lowering, lower schema ⟨.permissive, true⟩ ⟨"Bank", [.null]⟩ = .ok lowering ∧
      lowering.contract ≠ plain ∧ lowering.contract.Canonical ∧ plain.Canonical ∧
      (Json.parse? lowering.contract.document).bind Target.Contract.ofJson? =
        some lowering.contract ∧
      lowering.contract.document ≠ plain.document := by
  intro schema plain
  obtain ⟨_, hdecode, hdocument, hlower⟩ := documents_determine_contracts
  have hlowering := lower_permissive schema true ⟨"Bank", [.null]⟩
  have hcanonical := hlower schema ⟨.permissive, true⟩ ⟨"Bank", [.null]⟩ _ hlowering
  have hplain : plain.Canonical := by decide
  have hne : (gathered schema true ⟨"Bank", [.null]⟩).contract ≠ plain := by decide
  refine ⟨_, hlowering, hne, hcanonical, hplain, hdecode _ hcanonical, fun h => hne ?_⟩
  exact (hdocument _ _ hcanonical hplain).mp h

end ContractLowering
