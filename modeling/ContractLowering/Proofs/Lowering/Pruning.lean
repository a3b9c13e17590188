import ContractLowering.Proofs.Lowering.Accounting
import Mathlib.Data.List.Basic
import Mathlib.Data.List.Induction

/-! # Contracts without their failing nodes

Deleting every element and every declarator that fails leaves a contract that a strict pass
lowers to what a permissive pass makes of the whole contract. Only the positions of skipped
elements move.
-/

namespace ContractLowering

/-- The node with this value for a member. -/
def Json.withMember (value : Json) (name : String) (inner : Json) : Json :=
  match value with
  | object members => object (Members.insert name inner members)
  | value => value

section Pruning

variable (schema : Schema)

/-- What is left of an element: nothing if it fails, and a variable statement without the
declarators that fail, even if that leaves none. -/
def survivor? (value : Json) : Option Json :=
  match Source.Element.read value with
  | .error _ => none
  | .ok (.variableStatement declarations) =>
    let kept := declarations.filter fun declaration => (lowerDeclarator schema declaration).isOk
    some (value.withMember "declarations" (.array kept))
  | .ok (.function function) => if (lowerFunction schema function).isOk then some value else none
  | .ok (.other _) => some value

def Source.Contract.prune (contract : Source.Contract) : Source.Contract :=
  ⟨contract.name, contract.body.filterMap (survivor? schema)⟩

/-- Where the element at a position stands after pruning. -/
def prunedIndex (body : List Json) (index : Nat) : Nat :=
  ((body.take index).filterMap (survivor? schema)).length

end Pruning

/-- The same warning with another position for a skipped element. -/
def Warning.relocate (position : Nat → Nat) : Warning → Warning
  | unresolved slot => unresolved slot
  | skipped kind index => skipped kind (position index)

namespace Outcome

def relocate (position : Nat → Nat) : Outcome → Outcome
  | lowered node remark => lowered node remark
  | failed failure => failed failure
  | skipped kind index => skipped kind (position index)

variable (position : Nat → Nat) {α : Type} (node : α → Target.SubNode) (remark : α → Remark)
  (result : Except Failure (Lowered α))

theorem relocate_ofResult :
    (ofResult node remark result).relocate position = ofResult node remark result := by
  cases result <;> rfl

theorem isOk_eq_isNone_failure? : result.isOk = (ofResult node remark result).failure?.isNone := by
  cases result <;> rfl

end Outcome

theorem Source.Part.outcome_relocate_warnings (schema : Schema) (position : Nat → Nat)
    (part : Source.Part) :
    ((part.outcome schema).relocate position).warnings =
      (part.outcome schema).warnings.map (Warning.relocate position) := by
  have hskipped := part.outcome_warnings schema
  cases houtcome : part.outcome schema with
  | failed failure => rfl
  | skipped kind index => rfl
  | lowered node remark =>
    rw [houtcome] at hskipped
    have hkept : ∀ warning ∈ node.warnings, warning.relocate position = warning := by
      intro warning hw
      have := List.filter_eq_nil_iff.mp hskipped warning hw
      cases warning with
      | unresolved slot => rfl
      | skipped kind index => exact absurd rfl this
    exact (List.map_id' node.warnings).symm.trans
      (List.map_congr_left fun warning hw => (hkept warning hw).symm)

variable {schema : Schema} (position : Nat → Nat)

/-- Pruning keeps the kind of a variable statement and replaces its declarators. -/
theorem Source.Element.read_withMember {value : Json} {declarations : List Json}
    (h : read value = .ok (.variableStatement declarations)) (kept : List Json) :
    read (value.withMember "declarations" (.array kept)) = .ok (.variableStatement kept) := by
  obtain ⟨members, rfl, hkind, _⟩ := read_eq_variableStatement.mp h
  refine read_eq_variableStatement.mpr ⟨_, rfl, ?_, ?_⟩
  · rw [Members.get?_insert, if_neg (by decide), hkind]
  · rw [Members.get?_insert, if_pos rfl]

theorem outcomes_declarations (declarations : List Json) :
    (declarations.filter fun declaration => (lowerDeclarator schema declaration).isOk).map
        (fun declaration => Source.Part.outcome schema (.declarator declaration)) =
      ((declarations.map fun declaration =>
        Source.Part.outcome schema (.declarator declaration)).filter
          fun outcome => outcome.failure?.isNone).map (Outcome.relocate position) := by
  have hkept : (fun declaration => (lowerDeclarator schema declaration).isOk) =
      (fun outcome : Outcome => outcome.failure?.isNone) ∘ fun declaration =>
        Source.Part.outcome schema (.declarator declaration) :=
    funext fun declaration => Outcome.isOk_eq_isNone_failure? .state .ofVariable _
  rw [List.filter_map, List.map_map, ← hkept]
  exact List.map_congr_left fun declaration _ => (Outcome.relocate_ofResult position _ _ _).symm

/-- The outcomes of what is left of an element are those that are no failures. -/
theorem outcomes_survivor (element : Json × Nat) :
    (survivor? schema element.1).elim [] (fun value =>
        (Source.Part.ofElement (value, position element.2)).map (Source.Part.outcome schema)) =
      (((Source.Part.ofElement element).map (Source.Part.outcome schema)).filter
        fun outcome => outcome.failure?.isNone).map (Outcome.relocate position) := by
  obtain ⟨value, index⟩ := element
  simp only [survivor?]
  cases hread : Source.Element.read value with
  | error failure => simp [Source.Part.ofElement, hread, Source.Part.outcome, Outcome.failure?]
  | ok read =>
    cases read with
    | variableStatement declarations =>
      simp only [Option.elim_some, Source.Part.ofElement, hread,
        Source.Element.read_withMember hread, List.map_map]
      exact outcomes_declarations position declarations
    | function function =>
      cases hlower : lowerFunction schema function <;>
        simp [Except.isOk, Except.toBool, Source.Part.ofElement, hread, hlower,
          Source.Part.outcome, Outcome.ofResult, Outcome.failure?, Outcome.relocate]
    | other kind =>
      simp [Source.Part.ofElement, hread, Source.Part.outcome, Outcome.failure?, Outcome.relocate]

theorem outcomes_survivors (elements : List (Json × Nat)) :
    ((elements.filterMap fun element =>
        (survivor? schema element.1).map (·, position element.2)).flatMap
          Source.Part.ofElement).map (Source.Part.outcome schema) =
      (((elements.flatMap Source.Part.ofElement).map (Source.Part.outcome schema)).filter
        fun outcome => outcome.failure?.isNone).map (Outcome.relocate position) := by
  induction elements with
  | nil => rfl
  | cons element elements ih =>
    rw [List.flatMap_cons, List.map_append, List.filter_append, List.map_append,
      ← outcomes_survivor, ← ih, List.filterMap_cons]
    cases survivor? schema element.1 with
    | none => rfl
    | some value => rw [Option.map_some, List.flatMap_cons, List.map_append, Option.elim_some]

/-- Where the values that a partial map keeps come to stand. -/
theorem zipIdx_filterMap {α β : Type} (f : α → Option β) (values : List α) :
    (values.filterMap f).zipIdx =
      values.zipIdx.filterMap fun entry =>
        (f entry.1).map (·, ((values.take entry.2).filterMap f).length) := by
  -- from the end: a value behind the others does not move them
  induction values using List.reverseRecOn with
  | nil => rfl
  | append_singleton values value ih =>
    have hfront : ∀ entry ∈ values.zipIdx,
        (f entry.1).map (·, (((values ++ [value]).take entry.2).filterMap f).length) =
          (f entry.1).map (·, ((values.take entry.2).filterMap f).length) := by
      intro entry hentry
      have hlt : entry.2 < values.length := List.snd_lt_of_mem_zipIdx hentry
      rw [List.take_append_of_le_length (Nat.le_of_lt hlt)]
    rw [List.filterMap_append, List.zipIdx_append, List.zipIdx_append, List.filterMap_append,
      List.filterMap_congr hfront, ← ih, Nat.zero_add, Nat.zero_add]
    congr 1
    cases hf : f value <;> simp [hf]

/-- Pruning leaves the outcomes that are no failures. -/
theorem outcomes_prune (contract : Source.Contract) :
    outcomes schema (contract.prune schema) =
      ((outcomes schema contract).filter fun outcome => outcome.failure?.isNone).map
        (Outcome.relocate (prunedIndex schema contract.body)) := by
  simp only [outcomes, Source.Contract.parts, Source.Contract.prune]
  rw [zipIdx_filterMap]
  exact outcomes_survivors (prunedIndex schema contract.body) contract.body.zipIdx

section Gathered

variable (events : Bool) (contract : Source.Contract)

theorem gathered_prune_contract :
    (gathered schema events (contract.prune schema)).contract =
      (gathered schema events contract).contract := by
  have hnodes : (outcomes schema (contract.prune schema)).filterMap Outcome.node? =
      (outcomes schema contract).filterMap Outcome.node? := by
    rw [outcomes_prune, List.filterMap_map, List.filterMap_filter]
    refine List.filterMap_congr fun outcome _ => ?_
    cases outcome <;> rfl
  exact congrArg (fun nodes => Target.Contract.ofSubNodes contract.name
    (nodes ++ if events then lowerEvents schema else [])) hnodes

theorem gathered_prune_failures :
    (gathered schema events (contract.prune schema)).failures = [] := by
  rw [gathered_failures, outcomes_prune, List.filterMap_map, List.filterMap_filter,
    List.filterMap_eq_nil_iff]
  intro outcome _
  cases outcome <;> rfl

theorem gathered_prune_warnings :
    (gathered schema events (contract.prune schema)).warnings =
      (gathered schema events contract).warnings.map
        (Warning.relocate (prunedIndex schema contract.body)) := by
  rw [gathered_warnings, gathered_warnings, outcomes_prune]
  generalize prunedIndex schema contract.body = position
  unfold outcomes
  induction contract.parts with
  | nil => rfl
  | cons part parts ih =>
    have hwarnings := part.outcome_relocate_warnings schema position
    rw [List.map_cons, List.flatMap_cons, List.map_append, ← ih, ← hwarnings, List.filter_cons]
    cases part.outcome schema <;> rfl

end Gathered

/-- Failing nodes leave no trace but their failures: without them a strict pass succeeds with
the same contract and the same warnings, each skipped element at its new position. -/
theorem lower_prune (schema : Schema) (events : Bool) (contract : Source.Contract) :
    ∃ lowering pruned,
      lower schema ⟨.permissive, events⟩ contract = .ok lowering ∧
      lower schema ⟨.strict, events⟩ (contract.prune schema) = .ok pruned ∧
      pruned.contract = lowering.contract ∧ pruned.failures = [] ∧
      pruned.warnings =
        lowering.warnings.map (Warning.relocate (prunedIndex schema contract.body)) ∧
      (contract.prune schema).body.zipIdx =
        contract.body.zipIdx.filterMap fun element =>
          (survivor? schema element.1).map (·, prunedIndex schema contract.body element.2) := by
  refine ⟨_, gathered schema events (contract.prune schema),
    lower_permissive schema events contract, ?_, gathered_prune_contract events contract,
    gathered_prune_failures events contract, gathered_prune_warnings events contract,
    zipIdx_filterMap (survivor? schema) contract.body⟩
  rw [lower_strict, gathered_prune_failures]
  rfl

end ContractLowering
