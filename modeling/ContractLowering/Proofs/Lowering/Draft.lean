import ContractLowering.Proofs.Lowering.Inference
import ContractLowering.Proofs.Lowering.Node
import ContractLowering.Proofs.Lowering.Outcome
import Mathlib.Data.List.Forall2

/-! # Drafts

A draft is what the source alone makes of a part of a body: its failure, the position at which it
is skipped, or a node without what a schema says about it. Lowering is drafting followed by a
completion, so two schemas only ever complete the same drafts.
-/

namespace ContractLowering

open Target (SubNode)

/-- A part of a body as far as the source decides on it. -/
inductive Draft where
  | bare (name : String)
  | initialized (name : String) (inferred : Inferred)
  | function (declaration : Source.Function) (body : List Target.Statement)
  | failed (failure : Failure)
  | skipped (kind : String) (index : Nat)

namespace Draft

def ofVariable (declared : Source.Variable) : Except Failure Draft :=
  match declared.initializer with
  | some initializer =>
    (infer (.declarator (some declared.name)) initializer).map (initialized declared.name)
  | none => .ok (bare declared.name)

def ofFunction (declaration : Source.Function) : Except Failure Draft :=
  (lowerBody (.functionDeclaration (some declaration.name)) declaration.body).map
    (function declaration)

def ofResult : Except Failure Draft → Draft
  | .ok draft => draft
  | .error failure => failed failure

/-- What a schema makes of a draft. -/
def complete (schema : Schema) : Draft → Outcome
  | bare name =>
    .lowered ⟨.state (bareVariable schema name).node, (bareVariable schema name).warnings⟩
      (.variable (some name))
  | initialized name inferred =>
    .lowered ⟨.state (initializedVariable schema name inferred), []⟩ (.variable (some name))
  | function declaration body =>
    .lowered ⟨.function (functionOf schema declaration body), functionWarnings schema declaration⟩
      (.function declaration.name)
  | failed failure => .failed failure
  | skipped kind index => .skipped kind index

variable (first second : Schema)

theorem complete_failure? (draft : Draft) :
    (draft.complete first).failure? = (draft.complete second).failure? := by
  cases draft <;> rfl

end Draft

def Source.Part.draft : Source.Part → Draft
  | rejected failure => .failed failure
  | other kind index => .skipped kind index
  | function declaration => .ofResult (Draft.ofFunction declaration)
  | declarator value => .ofResult (Source.Variable.read value >>= Draft.ofVariable)

def Source.Contract.drafts (contract : Source.Contract) : List Draft :=
  contract.parts.map Source.Part.draft

/-- An initial value decides on a type. -/
theorem Source.Part.type_ne_unresolved_of_draft {part : Source.Part} {name : String}
    {inferred : Inferred} (h : part.draft = .initialized name inferred) :
    inferred.type ≠ .unresolved := by
  cases part with
  | rejected failure => exact nomatch h
  | other kind index => exact nomatch h
  | function declaration =>
    simp only [draft, Draft.ofFunction] at h
    cases hbody : lowerBody (.functionDeclaration (some declaration.name)) declaration.body <;>
      rw [hbody] at h <;> exact nomatch h
  | declarator value =>
    simp only [draft] at h
    cases hdraft : Source.Variable.read value >>= Draft.ofVariable with
    | error failure => rw [hdraft] at h; exact nomatch h
    | ok drafted =>
      rw [hdraft, Draft.ofResult] at h
      subst h
      obtain ⟨⟨declared, _ | initializer⟩, _, hvariable⟩ := bind_eq_ok.mp hdraft
      · exact nomatch hvariable
      · obtain ⟨found, hinfer, hfound⟩ := map_eq_ok.mp hvariable
        cases hfound
        obtain ⟨meaning, rfl⟩ := exists_value_of_infer hinfer
        exact meaning.type_ne_unresolved

section Completion

variable {schema : Schema}

theorem ofResult_lowerVariable (declared : Source.Variable) :
    Outcome.ofResult .state .ofVariable (lowerVariable schema declared) =
      (Draft.ofResult (Draft.ofVariable declared)).complete schema := by
  obtain ⟨name, _ | initializer⟩ := declared
  · rfl
  · rw [lowerVariable_initialized]
    simp only [Draft.ofVariable]
    cases infer (.declarator (some name)) initializer <;> rfl

/-- The schema comes in after all that can fail. -/
theorem Source.Part.outcome_eq_complete (part : Source.Part) :
    part.outcome schema = part.draft.complete schema := by
  cases part with
  | rejected failure => rfl
  | other kind index => rfl
  | function declaration =>
    simp only [outcome, draft, Draft.ofFunction, lowerFunction_eq_map]
    cases lowerBody (.functionDeclaration (some declaration.name)) declaration.body <;> rfl
  | declarator value =>
    simp only [outcome, draft, lowerDeclarator]
    cases Source.Variable.read value with
    | error failure => rfl
    | ok declared => exact ofResult_lowerVariable declared

theorem outcomes_eq_complete (contract : Source.Contract) :
    outcomes schema contract = contract.drafts.map (Draft.complete schema) := by
  rw [outcomes, Source.Contract.drafts, List.map_map]
  exact List.map_congr_left fun part _ => part.outcome_eq_complete

end Completion

section Schemas

variable {first second : Schema} (contract : Source.Contract)

theorem gathered_failures_eq :
    (gathered first false contract).failures = (gathered second false contract).failures := by
  simp only [gathered_failures, outcomes_eq_complete, List.filterMap_map]
  exact List.filterMap_congr fun draft _ => draft.complete_failure? first second

/-- A relation of the nodes that two schemas make of each draft relates the nodes of the whole
contracts, position by position. -/
theorem forall₂_subNodes {R : SubNode → SubNode → Prop}
    (hbare : ∀ name, .bare name ∈ contract.drafts →
      R (.state (bareVariable first name).node) (.state (bareVariable second name).node))
    (hinitialized : ∀ name inferred, .initialized name inferred ∈ contract.drafts →
      R (.state (initializedVariable first name inferred))
        (.state (initializedVariable second name inferred)))
    (hfunction : ∀ declaration body, .function declaration body ∈ contract.drafts →
      R (.function (functionOf first declaration body))
        (.function (functionOf second declaration body))) :
    List.Forall₂ R (gathered first false contract).contract.subNodes
      (gathered second false contract).contract.subNodes := by
  have hnode : ∀ draft ∈ contract.drafts,
      Option.Rel R (draft.complete first).node? (draft.complete second).node? := by
    intro draft hdraft
    cases draft with
    | bare name => exact .some (hbare name hdraft)
    | initialized name inferred => exact .some (hinitialized name inferred hdraft)
    | function declaration body => exact .some (hfunction declaration body hdraft)
    | failed failure => exact .none
    | skipped kind index => exact .none
  simp only [gathered_subNodes, outcomes_eq_complete, Bool.false_eq_true, if_false,
    List.append_nil, List.filterMap_map]
  refine List.rel_filterMap (R := fun draft draft' => draft = draft' ∧ draft ∈ contract.drafts) ?_
    (List.forall₂_same.mpr fun draft hdraft => ⟨rfl, hdraft⟩)
  rintro draft _ ⟨rfl, hdraft⟩
  exact hnode draft hdraft

end Schemas

end ContractLowering
