import ContractLowering.Proofs.Lowering.Node
import ContractLowering.Proofs.Lowering.Outcome

/-! # What a pass accounts for

A permissive pass never fails and reports each part of the body once, in the order of the body.
A strict pass says the same when nothing fails, and the first failure otherwise.
-/

namespace ContractLowering

/-- A strict pass succeeds with what a permissive pass reports if that is clean, and fails with
its first failure if it is not. -/
theorem lower_strict_iff_clean (schema : Schema) (events : Bool) (contract : Source.Contract) :
    ∃ lowering, lower schema ⟨.permissive, events⟩ contract = .ok lowering ∧
      (lower schema ⟨.strict, events⟩ contract =
        match lowering.failures with
        | [] => .ok lowering
        | failure :: _ => .error failure) ∧
      ((∃ found, lower schema ⟨.strict, events⟩ contract = .ok found) ↔
        lowering.isClean = true) := by
  refine ⟨_, lower_permissive schema events contract, ?_⟩
  rw [lower_strict]
  cases hfailures : (gathered schema events contract).failures with
  | nil => simp [Lowering.isClean, hfailures]
  | cons failure failures => simp [Lowering.isClean, hfailures]

theorem Outcome.ofResult_warnings {α : Type} (node : α → Target.SubNode) (remark : α → Remark)
    {result : Except Failure (Lowered α)}
    (h : ∀ lowered, result = .ok lowered →
      ∀ warning ∈ lowered.warnings, warning.isSkipped = false) :
    (ofResult node remark result).warnings.filter Warning.isSkipped =
      (ofResult node remark result).skipped?.toList := by
  cases result with
  | error failure => rfl
  | ok lowered =>
    refine List.filter_eq_nil_iff.mpr fun warning hw => ?_
    simp [h lowered rfl warning hw]

namespace Source.Part

variable {schema : Schema}

theorem outcome_eq_skipped {part : Part} {kind : String} {index : Nat} :
    part.outcome schema = .skipped kind index ↔ part = .other kind index := by
  cases part with
  | rejected failure => simp [outcome]
  | other kind index => simp [outcome]
  | function declaration =>
    simp only [outcome]
    cases lowerFunction schema declaration <;> simp [Outcome.ofResult]
  | declarator value =>
    simp only [outcome]
    cases lowerDeclarator schema value <;> simp [Outcome.ofResult]

/-- The warnings about a lowered part only speak of missing schema entries. -/
theorem outcome_warnings (schema : Schema) (part : Part) :
    (part.outcome schema).warnings.filter Warning.isSkipped =
      (part.outcome schema).skipped?.toList := by
  cases part with
  | rejected failure => rfl
  | other kind index => rfl
  | function declaration =>
    refine Outcome.ofResult_warnings _ _ fun lowered hlower warning hw => ?_
    obtain ⟨body, _, rfl⟩ := lowerFunction_eq_ok.mp hlower
    exact functionWarnings_isSkipped hw
  | declarator value =>
    refine Outcome.ofResult_warnings _ _ fun lowered hlower warning hw => ?_
    obtain ⟨declared, _, hvariable⟩ := bind_eq_ok.mp hlower
    exact lowerVariable_isSkipped hvariable hw

theorem mem_ofElement_other {element : Json × Nat} {kind : String} {index : Nat} :
    .other kind index ∈ ofElement element ↔
      element.2 = index ∧ ∃ members : Members, element.1 = .object members ∧
        members.get? "type" = some (.text kind) ∧ kind ≠ "VariableStatement" ∧
          kind ≠ "FunctionDeclaration" := by
  rw [← Element.read_eq_other]
  simp only [ofElement]
  cases Element.read element.1 with
  | error failure => simp
  | ok read => cases read <;> simp [eq_comm, and_comm]

end Source.Part

theorem Source.Contract.mem_parts_other {contract : Source.Contract} {kind : String}
    {index : Nat} :
    .other kind index ∈ contract.parts ↔
      ∃ members : Members, contract.body[index]? = some (.object members) ∧
        members.get? "type" = some (.text kind) ∧ kind ≠ "VariableStatement" ∧
          kind ≠ "FunctionDeclaration" := by
  simp only [parts, List.mem_flatMap, Source.Part.mem_ofElement_other]
  constructor
  · rintro ⟨⟨value, position⟩, hmem, rfl, members, rfl, h⟩
    exact ⟨members, List.mem_zipIdx_iff_getElem?.mp hmem, h⟩
  · rintro ⟨members, hvalue, h⟩
    exact ⟨(.object members, index), List.mem_zipIdx_iff_getElem?.mpr hvalue, rfl, members, rfl, h⟩

theorem outcomes_skipped (schema : Schema) (contract : Source.Contract) :
    ((outcomes schema contract).flatMap Outcome.warnings).filter Warning.isSkipped =
      (outcomes schema contract).filterMap Outcome.skipped? := by
  rw [outcomes]
  induction contract.parts with
  | nil => rfl
  | cons part parts ih =>
    rw [List.map_cons, List.flatMap_cons, List.filter_append, ih, part.outcome_warnings schema,
      List.filterMap_cons]
    cases (part.outcome schema).skipped? <;> rfl

/-- A permissive pass loses nothing and repeats nothing: nodes, failures and warnings about
skipped elements are the outcomes of the parts, each in its place. -/
theorem lower_permissive_eq_outcomes (schema : Schema) (contract : Source.Contract) :
    ∃ lowering, lower schema ⟨.permissive, false⟩ contract = .ok lowering ∧
      lowering.contract.subNodes =
        (contract.parts.map (Source.Part.outcome schema)).filterMap Outcome.node? ∧
      lowering.failures =
        (contract.parts.map (Source.Part.outcome schema)).filterMap Outcome.failure? ∧
      lowering.warnings.filter Warning.isSkipped =
        (contract.parts.map (Source.Part.outcome schema)).filterMap Outcome.skipped? ∧
      contract.parts.length = lowering.contract.subNodes.length + lowering.failures.length +
        (lowering.warnings.filter Warning.isSkipped).length ∧
      (∀ (part : Source.Part) (kind : String) (index : Nat),
        part.outcome schema = .skipped kind index ↔ part = .other kind index) ∧
      ∀ (kind : String) (index : Nat), .other kind index ∈ contract.parts ↔
        ∃ members : Members, contract.body[index]? = some (.object members) ∧
          members.get? "type" = some (.text kind) ∧ kind ≠ "VariableStatement" ∧
            kind ≠ "FunctionDeclaration" := by
  have hnodes : (gathered schema false contract).contract.subNodes =
      (outcomes schema contract).filterMap Outcome.node? := by
    simp [gathered_subNodes]
  have hskipped : (gathered schema false contract).warnings.filter Warning.isSkipped =
      (outcomes schema contract).filterMap Outcome.skipped? :=
    outcomes_skipped schema contract
  refine ⟨_, lower_permissive schema false contract, hnodes, rfl, hskipped, ?_,
    fun _ _ _ => Source.Part.outcome_eq_skipped, fun _ _ => Source.Contract.mem_parts_other⟩
  rw [hnodes, hskipped, gathered_failures, ← Outcome.tally, outcomes, List.length_map]

end ContractLowering
