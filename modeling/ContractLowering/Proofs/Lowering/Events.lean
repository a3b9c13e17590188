import ContractLowering.Proofs.Lowering.Outcome
import ContractLowering.Proofs.Schema.Document
import Mathlib.Data.List.Forall2

/-! # Events at the end of contracts

With events asked for, a contract ends with one sub-node for each event of its schema, and nothing
else changes: neither the sub-nodes in front of them, nor failures, nor warnings, nor what a strict
pass stops at. The events are those that the document of the schema lists.
-/

namespace ContractLowering

/-- A parameter of an event has the name and the type that the schema gives, and no mark. -/
structure Schema.TypedName.Describes (typed : Schema.TypedName) (v : Target.Variable) : Prop where
  name : v.name = some typed.name
  type : v.typeName.type = .ofSchema typed.type
  isIndexed : v.isIndexed = false
  isStateVar : v.isStateVar = false

/-- The sub-node of an event: its name, and its parameters in their order. -/
inductive Announces : String × List Schema.TypedName → Target.SubNode → Prop
  | event {name : String} {listed : List Schema.TypedName} {parameters : List Target.Variable}
      (described : List.Forall₂ Schema.TypedName.Describes listed parameters) :
      Announces (name, listed) (.event ⟨name, parameters, false⟩)

theorem lowerEvents_announces (schema : Schema) :
    List.Forall₂ Announces schema.events (lowerEvents schema) := by
  rw [lowerEvents, List.forall₂_map_right_iff, List.forall₂_same]
  rintro ⟨name, listed⟩ -
  apply Announces.event
  rw [List.forall₂_map_right_iff, List.forall₂_same]
  intro typed _
  exact ⟨rfl, rfl, rfl, rfl⟩

/-- A lowering with more sub-nodes at the end of its contract. -/
def Lowering.appendNodes (lowering : Lowering) (nodes : List Target.SubNode) : Lowering :=
  { lowering with
    contract := { lowering.contract with subNodes := lowering.contract.subNodes ++ nodes } }

theorem gathered_events (schema : Schema) (contract : Source.Contract) :
    gathered schema true contract =
      (gathered schema false contract).appendNodes (lowerEvents schema) := by
  simp [gathered, finish, Lowering.appendNodes, Target.Contract.ofSubNodes]

theorem lower_events (schema : Schema) (mode : Mode) (contract : Source.Contract) :
    lower schema ⟨mode, true⟩ contract =
      (lower schema ⟨mode, false⟩ contract).map (·.appendNodes (lowerEvents schema)) := by
  cases mode with
  | permissive =>
    rw [lower_permissive, lower_permissive, gathered_events]
    rfl
  | strict =>
    have hfailures : (gathered schema true contract).failures =
        (gathered schema false contract).failures := rfl
    rw [lower_strict, lower_strict, hfailures, gathered_events]
    cases (gathered schema false contract).failures.head? <;> rfl

/-- Asking for events adds their sub-nodes at the end of a contract and changes nothing else. They
depend on the schema alone: each event that its document lists has one, at the place of its first
entry and with the parameters of its last one. -/
theorem lower_events_suffix {text : String} {schema : Schema}
    (h : Schema.parse? text = some schema) :
    ∃ tree listing nodes, Schema.Holds text tree ∧ Schema.ListsEvents tree listing ∧
      Schema.Gathers listing schema.events ∧ List.Forall₂ Announces schema.events nodes ∧
      ∀ (mode : Mode) (contract : Source.Contract), lower schema ⟨mode, true⟩ contract =
        (lower schema ⟨mode, false⟩ contract).map (·.appendNodes nodes) := by
  obtain ⟨tree, hholds, hread⟩ := Schema.exists_holds h
  obtain ⟨listing, hlists, hgathers⟩ := Schema.ofTree?_gathers hread
  exact ⟨tree, listing, lowerEvents schema, hholds, hlists, hgathers, lowerEvents_announces schema,
    lower_events schema⟩

/-- An event that is listed twice comes once, in front of the one that is listed in between; a
contract that cannot be lowered fails as it does without events. -/
theorem lower_events_suffix_repeated :
    let text := "events: \x7bB: [], A: [], B: [\x7bname: to, type: address\x7d]\x7d"
    let contract : Source.Contract := ⟨"C", [.null]⟩
    ∃ schema nodes, Schema.parse? text = some schema ∧
      List.Forall₂ Announces [("B", [⟨"to", "address"⟩]), ("A", [])] nodes ∧
      lower schema ⟨.permissive, true⟩ contract =
        (lower schema ⟨.permissive, false⟩ contract).map (·.appendNodes nodes) ∧
      lower schema ⟨.strict, true⟩ contract = lower schema ⟨.strict, false⟩ contract := by
  intro text contract
  have hparse : Schema.parse? text =
      some ⟨[], [], [("B", [⟨"to", "address"⟩]), ("A", [])]⟩ := by decide +kernel
  obtain ⟨_, _, nodes, _, _, _, hnodes, hlower⟩ := lower_events_suffix hparse
  refine ⟨_, nodes, hparse, hnodes, hlower .permissive contract, ?_⟩
  rw [hlower .strict contract]
  rfl

end ContractLowering
