import ContractLowering.Proofs.Lowering.Pruning

/-! # Lowering of concatenated bodies

No element is treated otherwise for what stands in front of it. So a body in two pieces is lowered
piece by piece: the results are joined, and the positions of skipped elements in the second piece
move by the length of the first.
-/

namespace ContractLowering

/-- The same part with another position, if it has one. -/
def Source.Part.relocate (position : Nat → Nat) : Source.Part → Source.Part
  | rejected failure => rejected failure
  | other kind index => other kind (position index)
  | function declaration => function declaration
  | declarator value => declarator value

/-- What is lowered from a body whose second piece starts at this position. -/
def Lowering.append (first : Lowering) (start : Nat) (second : Lowering) : Lowering where
  contract := { first.contract with
    subNodes := first.contract.subNodes ++ second.contract.subNodes }
  failures := first.failures ++ second.failures
  warnings := first.warnings ++ second.warnings.map (Warning.relocate (start + ·))

namespace Outcome

variable (position : Nat → Nat) (outcomes : List Outcome)

theorem filterMap_node?_relocate :
    (outcomes.map (relocate position)).filterMap node? = outcomes.filterMap node? := by
  rw [List.filterMap_map]
  refine List.filterMap_congr fun outcome _ => ?_
  cases outcome <;> rfl

theorem filterMap_failure?_relocate :
    (outcomes.map (relocate position)).filterMap failure? = outcomes.filterMap failure? := by
  rw [List.filterMap_map]
  refine List.filterMap_congr fun outcome _ => ?_
  cases outcome <;> rfl

end Outcome

namespace Source.Part

variable (position : Nat → Nat)

theorem ofElement_relocate (value : Json) (index : Nat) :
    ofElement (value, position index) = (ofElement (value, index)).map (relocate position) := by
  simp only [ofElement]
  cases Element.read value with
  | error failure => rfl
  | ok read => cases read <;> simp [relocate]

theorem outcome_relocate (schema : Schema) (part : Part) :
    (part.relocate position).outcome schema = (part.outcome schema).relocate position := by
  cases part with
  | rejected failure => rfl
  | other kind index => rfl
  | function declaration => exact (Outcome.relocate_ofResult position _ _ _).symm
  | declarator value => exact (Outcome.relocate_ofResult position _ _ _).symm

end Source.Part

section Pieces

variable (schema : Schema) (name : String) (xs ys : List Json)

theorem parts_append :
    (Source.Contract.mk name (xs ++ ys)).parts =
      (Source.Contract.mk name xs).parts ++
        (Source.Contract.mk name ys).parts.map (Source.Part.relocate (xs.length + ·)) := by
  simp only [Source.Contract.parts]
  rw [List.zipIdx_append, List.flatMap_append, Nat.zero_add, List.zipIdx_eq_map_add (l := ys),
    List.flatMap_map, List.map_flatMap]
  congr 1
  refine List.flatMap_congr ?_
  rintro ⟨value, index⟩ _
  exact Source.Part.ofElement_relocate (xs.length + ·) value index

theorem outcomes_append :
    outcomes schema ⟨name, xs ++ ys⟩ =
      outcomes schema ⟨name, xs⟩ ++
        (outcomes schema ⟨name, ys⟩).map (Outcome.relocate (xs.length + ·)) := by
  rw [outcomes, parts_append, List.map_append, List.map_map]
  congr 1
  rw [outcomes, List.map_map]
  exact List.map_congr_left fun part _ => part.outcome_relocate (xs.length + ·) schema

theorem relocated_warnings (position : Nat → Nat) (contract : Source.Contract) :
    ((outcomes schema contract).map (Outcome.relocate position)).flatMap Outcome.warnings =
      ((outcomes schema contract).flatMap Outcome.warnings).map (Warning.relocate position) := by
  rw [outcomes, List.map_map, List.flatMap_map, List.flatMap_map, List.map_flatMap]
  exact List.flatMap_congr fun part _ => part.outcome_relocate_warnings schema position

theorem gathered_append :
    gathered schema false ⟨name, xs ++ ys⟩ =
      (gathered schema false ⟨name, xs⟩).append xs.length (gathered schema false ⟨name, ys⟩) := by
  simp only [gathered, finish, Progress.gather, Progress.start, outcomes_append,
    List.filterMap_append, List.flatMap_append, Outcome.filterMap_node?_relocate,
    Outcome.filterMap_failure?_relocate, relocated_warnings, List.nil_append]
  simp [Lowering.append, Target.Contract.ofSubNodes]

end Pieces

/-- Lowering a body in two pieces is lowering one after the other: a pass that fails on the first
piece fails alike on both, one that fails on the second only fails as it does there, and otherwise
nodes, failures and warnings are joined. -/
theorem lower_append (schema : Schema) (mode : Mode) (name : String) (xs ys : List Json) :
    lower schema ⟨mode, false⟩ ⟨name, xs ++ ys⟩ =
      match lower schema ⟨mode, false⟩ ⟨name, xs⟩, lower schema ⟨mode, false⟩ ⟨name, ys⟩ with
      | .error failure, _ => .error failure
      | .ok _, .error failure => .error failure
      | .ok first, .ok second => .ok (first.append xs.length second) := by
  cases mode with
  | permissive => simp only [lower_permissive, gathered_append]
  | strict =>
    have hfirst : (gathered schema false ⟨name, xs ++ ys⟩).failures.head? =
        (gathered schema false ⟨name, xs⟩).failures.head?.or
          (gathered schema false ⟨name, ys⟩).failures.head? := by
      rw [gathered_append]
      exact List.head?_append
    rw [lower_strict, lower_strict, lower_strict, hfirst, gathered_append]
    cases (gathered schema false ⟨name, xs⟩).failures.head? with
    | some failure => rfl
    | none => cases (gathered schema false ⟨name, ys⟩).failures.head? <;> rfl

end ContractLowering
