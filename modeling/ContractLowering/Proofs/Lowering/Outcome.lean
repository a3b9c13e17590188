import ContractLowering.Lowering.Contract
import Mathlib.Tactic.Common

/-! # Outcomes of the parts of a body

A body is cut into parts, each of which is lowered, fails or is skipped on its own. A pass only
gathers these outcomes in the order of the body: a permissive pass gathers all of them, a strict
pass stops in front of the first failure.
-/

namespace ContractLowering

/-- A part of a body: an element that cannot be read, an element of another kind with its
position, a function, or a single declarator. -/
inductive Source.Part where
  | rejected (failure : Failure)
  | other (kind : String) (index : Nat)
  | function (declaration : Source.Function)
  | declarator (value : Json)

/-- The parts of an element; a variable statement has one for each declarator. -/
def Source.Part.ofElement (element : Json × Nat) : List Source.Part :=
  match Source.Element.read element.1 with
  | .error failure => [.rejected failure]
  | .ok (.variableStatement declarations) => declarations.map .declarator
  | .ok (.function declaration) => [.function declaration]
  | .ok (.other kind) => [.other kind element.2]

def Source.Contract.parts (contract : Source.Contract) : List Source.Part :=
  contract.body.zipIdx.flatMap Source.Part.ofElement

/-- What becomes of a part. -/
inductive Outcome where
  | lowered (node : Lowered Target.SubNode) (remark : Remark)
  | failed (failure : Failure)
  | skipped (kind : String) (index : Nat)

namespace Outcome

def ofResult {α : Type} (node : α → Target.SubNode) (remark : α → Remark) :
    Except Failure (Lowered α) → Outcome
  | .ok result => lowered ⟨node result.node, result.warnings⟩ (remark result.node)
  | .error failure => failed failure

def node? : Outcome → Option Target.SubNode
  | lowered node _ => some node.node
  | failed _ => none
  | skipped _ _ => none

def failure? : Outcome → Option Failure
  | lowered _ _ => none
  | failed failure => some failure
  | skipped _ _ => none

/-- The warning about a skipped part. -/
def skipped? : Outcome → Option Warning
  | lowered _ _ => none
  | failed _ => none
  | skipped kind index => some (.skipped kind index)

def warnings : Outcome → List Warning
  | lowered node _ => node.warnings
  | failed _ => []
  | skipped kind index => [.skipped kind index]

def remark? : Outcome → Option Remark
  | lowered _ remark => some remark
  | failed _ => none
  | skipped kind index => some (.skipped kind index)

theorem ofResult_node?_eq_some {α : Type} {node : α → Target.SubNode} {remark : α → Remark}
    {result : Except Failure (Lowered α)} {found : Target.SubNode} :
    (ofResult node remark result).node? = some found ↔
      ∃ lowered, result = .ok lowered ∧ node lowered.node = found := by
  cases result <;> simp [ofResult, node?]

/-- A part is lowered, fails or is skipped, and never two of these. -/
theorem tally (outcomes : List Outcome) :
    outcomes.length = (outcomes.filterMap node?).length + (outcomes.filterMap failure?).length +
      (outcomes.filterMap skipped?).length := by
  induction outcomes with
  | nil => rfl
  | cons outcome outcomes ih =>
    simp only [List.filterMap_cons, List.length_cons, ih]
    cases outcome <;> simp only [node?, failure?, skipped?, List.length_cons] <;> omega

end Outcome

/-- The name of a declaration's variable, as remarks give it. -/
def Remark.ofVariable (declaration : Target.StateVariable) : Remark :=
  .variable (declaration.declared.head?.bind (·.name))

def Remark.ofFunction (definition : Target.Function) : Remark :=
  .function definition.name

/-- The outcome of a part alone, whatever stands around it. -/
def Source.Part.outcome (schema : Schema) : Source.Part → Outcome
  | .rejected failure => .failed failure
  | .other kind index => .skipped kind index
  | .function declaration => .ofResult .function .ofFunction (lowerFunction schema declaration)
  | .declarator value => .ofResult .state .ofVariable (lowerDeclarator schema value)

def outcomes (schema : Schema) (contract : Source.Contract) : List Outcome :=
  contract.parts.map (Source.Part.outcome schema)

namespace Progress

def absorb (mode : Mode) (progress : Progress) : Outcome → Except Abort Progress
  | .lowered node remark => .ok (progress.add node remark)
  | .failed failure => progress.fail mode failure
  | .skipped kind index => .ok (progress.skip kind index)

/-- Progress after outcomes that did not end the pass. -/
def gather (progress : Progress) (outcomes : List Outcome) : Progress where
  nodes := progress.nodes ++ outcomes.filterMap Outcome.node?
  failures := progress.failures ++ outcomes.filterMap Outcome.failure?
  warnings := progress.warnings ++ outcomes.flatMap Outcome.warnings
  remarks := progress.remarks ++ outcomes.filterMap Outcome.remark?

theorem gather_nil (progress : Progress) : progress.gather [] = progress := by
  simp [gather]

theorem gather_append (progress : Progress) (first later : List Outcome) :
    progress.gather (first ++ later) = (progress.gather first).gather later := by
  simp [gather]

theorem gather_cons (progress : Progress) (outcome : Outcome) (later : List Outcome) :
    progress.gather (outcome :: later) = (progress.gather [outcome]).gather later :=
  progress.gather_append [outcome] later

theorem absorb_permissive (progress : Progress) (outcome : Outcome) :
    progress.absorb .permissive outcome = .ok (progress.gather [outcome]) := by
  cases outcome <;> simp [absorb, add, fail, skip, gather, Outcome.node?, Outcome.failure?,
    Outcome.warnings, Outcome.remark?]

theorem absorb_strict (progress : Progress) (outcome : Outcome) :
    progress.absorb .strict outcome =
      match outcome.failure? with
      | none => .ok (progress.gather [outcome])
      | some failure => .error ⟨failure, progress.remarks⟩ := by
  cases outcome with
  | failed failure => rfl
  | lowered node remark => exact absorb_permissive progress (.lowered node remark)
  | skipped kind index => exact absorb_permissive progress (.skipped kind index)

end Progress

variable (schema : Schema) (mode : Mode)

theorem passVariable_eq_absorb (progress : Progress) (value : Json) :
    passVariable schema mode progress value =
      progress.absorb mode (Source.Part.outcome schema (.declarator value)) := by
  simp only [passVariable, Source.Part.outcome]
  cases lowerDeclarator schema value <;> rfl

theorem passElement_eq_foldlM (progress : Progress) (element : Json × Nat) :
    passElement schema mode progress element =
      ((Source.Part.ofElement element).map (Source.Part.outcome schema)).foldlM
        (Progress.absorb mode) progress := by
  simp only [passElement, Source.Part.ofElement]
  cases Source.Element.read element.1 with
  | error failure => simp [Source.Part.outcome, Progress.absorb]
  | ok read =>
    cases read with
    | variableStatement declarations =>
      simp only [List.foldlM_map, ← passVariable_eq_absorb]
    | function declaration =>
      simp only [List.map_cons, List.map_nil, List.foldlM_cons, List.foldlM_nil, bind_pure,
        Source.Part.outcome]
      cases lowerFunction schema declaration <;> rfl
    | other kind => simp [Source.Part.outcome, Progress.absorb]

/-- A pass absorbs the outcomes of the parts one by one. -/
theorem pass_eq_foldlM (contract : Source.Contract) :
    pass schema mode contract =
      (outcomes schema contract).foldlM (Progress.absorb mode) .start := by
  unfold pass outcomes Source.Contract.parts
  -- the parts of an element are absorbed wherever the pass stands
  generalize Progress.start = progress
  induction contract.body.zipIdx generalizing progress with
  | nil => rfl
  | cons element elements ih =>
    rw [List.foldlM_cons, List.flatMap_cons, List.map_append, List.foldlM_append,
      passElement_eq_foldlM]
    exact bind_congr ih

theorem foldlM_permissive (progress : Progress) (found : List Outcome) :
    found.foldlM (Progress.absorb .permissive) progress = .ok (progress.gather found) := by
  induction found generalizing progress with
  | nil => exact congrArg Except.ok progress.gather_nil.symm
  | cons outcome found ih =>
    rw [List.foldlM_cons, Progress.absorb_permissive, progress.gather_cons outcome found]
    exact ih _

/-- A strict pass gathers everything when nothing fails, and ends with the first failure
otherwise. -/
theorem foldlM_strict (progress : Progress) (found : List Outcome) :
    match (found.filterMap Outcome.failure?).head? with
    | none => found.foldlM (Progress.absorb .strict) progress = .ok (progress.gather found)
    | some failure => ∃ remarks,
        found.foldlM (Progress.absorb .strict) progress = .error ⟨failure, remarks⟩ := by
  induction found generalizing progress with
  | nil => exact congrArg Except.ok progress.gather_nil.symm
  | cons outcome found ih =>
    rw [List.foldlM_cons, Progress.absorb_strict, List.filterMap_cons]
    cases outcome.failure? with
    | none =>
      rw [progress.gather_cons outcome found]
      exact ih _
    | some failure => exact ⟨progress.remarks, rfl⟩

/-- All outcomes of a contract, as a pass that reaches the end reports them. -/
def gathered (schema : Schema) (events : Bool) (contract : Source.Contract) : Lowering :=
  finish schema ⟨.permissive, events⟩ contract.name
    (Progress.start.gather (outcomes schema contract))

section Gathered

variable (events : Bool) (contract : Source.Contract)

theorem gathered_subNodes :
    (gathered schema events contract).contract.subNodes =
      (outcomes schema contract).filterMap Outcome.node? ++
        if events then lowerEvents schema else [] := rfl

theorem gathered_failures :
    (gathered schema events contract).failures =
      (outcomes schema contract).filterMap Outcome.failure? := rfl

theorem gathered_warnings :
    (gathered schema events contract).warnings =
      (outcomes schema contract).flatMap Outcome.warnings := rfl

theorem lower_permissive :
    lower schema ⟨.permissive, events⟩ contract = .ok (gathered schema events contract) := by
  rw [lower, pass_eq_foldlM, foldlM_permissive]
  rfl

theorem lower_strict :
    lower schema ⟨.strict, events⟩ contract =
      match (gathered schema events contract).failures.head? with
      | none => .ok (gathered schema events contract)
      | some failure => .error failure := by
  have hpass := foldlM_strict .start (outcomes schema contract)
  rw [lower, pass_eq_foldlM, gathered_failures]
  cases hfailure : ((outcomes schema contract).filterMap Outcome.failure?).head? with
  | none =>
    rw [hfailure] at hpass
    rw [hpass]
    rfl
  | some failure =>
    rw [hfailure] at hpass
    obtain ⟨remarks, hpass⟩ := hpass
    rw [hpass]

end Gathered

/-- Whatever a pass succeeds with has been gathered from all parts of the contract. -/
theorem lower_eq_ok {schema : Schema} {options : Options} {contract : Source.Contract}
    {lowering : Lowering} (h : lower schema options contract = .ok lowering) :
    lowering = gathered schema options.events contract := by
  obtain ⟨mode, events⟩ := options
  cases mode with
  | permissive =>
    rw [lower_permissive, Except.ok.injEq] at h
    exact h.symm
  | strict =>
    rw [lower_strict] at h
    split at h
    · exact (Except.ok.inj h).symm
    · exact nomatch h

end ContractLowering
