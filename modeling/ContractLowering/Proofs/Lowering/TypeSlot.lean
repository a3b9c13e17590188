import ContractLowering.Proofs.Lowering.SubNode
import ContractLowering.Schema.Reader
import Mathlib.Logic.Function.Basic

/-! # Unresolved types and the warnings about them

Every node has type slots, each of which the schema can fill by an entry of its own. A warning
stands for one slot that is left unresolved because the schema has no entry for it, in the order
of the slots. A slot whose entry has an empty type is left unresolved too, and is not warned
about.
-/

namespace ContractLowering

open Target (ElementaryType SubNode)

namespace TypeSlot

/-- What a warning about a slot tells: the node that needs the type, and the missing entry. -/
def report (slot : TypeSlot) : Location × String :=
  (slot.location, slot.entry)

theorem entry_parameter_ne_result (function name : String) :
    (parameter function name).entry ≠ (result function).entry := by
  intro h
  have htail : ".parameters." ++ name = ".type" := by
    simpa [entry, String.append_assoc] using h
  have hchars := congrArg String.toList htail
  simp at hchars

/-- A report tells which slot is meant. -/
theorem report_injective : Function.Injective report := by
  rintro (name | ⟨function, name⟩ | function) (name' | ⟨function', name'⟩ | function') h
  all_goals
    obtain ⟨hlocation, hentry⟩ := Prod.mk.inj h
    simp only [location, Location.declarator, Location.functionDeclaration, Location.mk.injEq,
      Option.some.injEq, true_and] at hlocation
  case state.state => rw [hlocation]
  case parameter.parameter =>
    subst hlocation
    have hname : name = name' := by simpa [entry] using hentry
    rw [hname]
  case parameter.result =>
    subst hlocation
    exact absurd hentry (entry_parameter_ne_result function name)
  case result.parameter =>
    subst hlocation
    exact absurd hentry.symm (entry_parameter_ne_result function name')
  case result.result => rw [hlocation]
  -- the node of a variable and that of a function are of different kinds
  all_goals exact absurd hlocation.1 (by decide)

end TypeSlot

/-- The slot that a warning is about, if it is about one. -/
def Warning.slot? : Warning → Option TypeSlot
  | unresolved slot => some slot
  | skipped _ _ => none

/-- What a warning tells about the slot that it is about. -/
def Warning.report? (warning : Warning) : Option (Location × String) :=
  warning.slot?.map TypeSlot.report

/-- The type that a schema gives for a slot. -/
def Schema.type? (schema : Schema) : TypeSlot → Option String
  | .state name => (schema.stateVariable? name).map (·.type)
  | .parameter function name =>
    ((schema.definition? function).bind (·.parameter? name)).map (·.type)
  | .result function => (schema.definition? function).bind (·.type)

namespace Target

/-- The type slots of a node, in their order, with what they hold. The schema has no entries for
the types of events. -/
def SubNode.typeSlots : SubNode → List (TypeSlot × ElementaryType)
  | state declaration =>
    declaration.declared.map fun v => (.state (v.name.getD ""), v.typeName.type)
  | function definition =>
    definition.parameters.map (fun v =>
        (.parameter definition.name (v.name.getD ""), v.typeName.type)) ++
      definition.results.map fun v => (.result definition.name, v.typeName.type)
  | event _ => []

/-- The slots among these that hold no type. -/
def unresolvedAmong (slots : List (TypeSlot × ElementaryType)) : List TypeSlot :=
  (slots.filter fun slot => slot.2 = .unresolved).map Prod.fst

def SubNode.unresolvedSlots (node : SubNode) : List TypeSlot :=
  unresolvedAmong node.typeSlots

/-- The slots of a contract that hold no type, one for each occurrence. -/
def Contract.unresolvedSlots (contract : Contract) : List TypeSlot :=
  contract.subNodes.flatMap SubNode.unresolvedSlots

end Target

section Missing

variable (schema : Schema)

/-- The slots among these that a schema does not give an empty type. -/
def Schema.missing (slots : List TypeSlot) : List TypeSlot :=
  slots.filter fun slot => schema.type? slot ≠ some ""

theorem ofSchema_eq_unresolved {name : String} :
    ElementaryType.ofSchema name = .unresolved ↔ name = "" := by
  constructor
  · intro h
    unfold ElementaryType.ofSchema at h
    split_ifs at h
    assumption
  · rintro rfl
    rfl

/-- Slots are left unresolved where the schema has no entry, and where its entry is empty; the
former are warned about. -/
theorem resolve_missing (slots : List TypeSlot) :
    (slots.flatMap fun slot => (resolve slot (schema.type? slot)).warnings).filterMap
        Warning.slot? =
      schema.missing (Target.unresolvedAmong
        (slots.map fun slot => (slot, (resolve slot (schema.type? slot)).node))) := by
  induction slots with
  | nil => rfl
  | cons slot slots ih =>
    rw [List.flatMap_cons, List.filterMap_append, ih, List.map_cons]
    simp only [Target.unresolvedAmong, List.filter_cons]
    cases htype : schema.type? slot with
    | none => simp [resolve, Schema.missing, Warning.slot?, htype]
    | some type =>
      by_cases hempty : type = "" <;>
        simp [resolve, Schema.missing, htype, hempty, ofSchema_eq_unresolved]

/-- The slots of a function: its parameters, then its result. -/
def Source.Function.typeSlots (function : Source.Function) : List TypeSlot :=
  function.parameters.map (.parameter function.name) ++ [.result function.name]

theorem functionOf_typeSlots (function : Source.Function) (body : List Target.Statement) :
    (SubNode.function (functionOf schema function body)).typeSlots =
      function.typeSlots.map fun slot => (slot, (resolve slot (schema.type? slot)).node) := by
  simp [SubNode.typeSlots, functionOf, Source.Function.typeSlots, loweredParameters,
    lowerParameter, resultType, Schema.type?, Target.Variable.parameter, Target.Variable.slot,
    Target.TypeName.plain]

theorem functionWarnings_eq_flatMap (function : Source.Function) :
    functionWarnings schema function =
      function.typeSlots.flatMap fun slot => (resolve slot (schema.type? slot)).warnings := by
  simp [functionWarnings, Source.Function.typeSlots, loweredParameters, lowerParameter, resultType,
    Schema.type?, List.flatMap_map]

theorem functionWarnings_missing (function : Source.Function) (body : List Target.Statement) :
    (functionWarnings schema function).filterMap Warning.slot? =
      schema.missing (SubNode.function (functionOf schema function body)).unresolvedSlots := by
  rw [functionWarnings_eq_flatMap, resolve_missing, SubNode.unresolvedSlots, functionOf_typeSlots]

theorem variableOf_missing (name : String) (meaning : Option Value) :
    (variableOf schema name meaning).warnings.filterMap Warning.slot? =
      schema.missing (SubNode.state (variableOf schema name meaning).node).unresolvedSlots := by
  cases meaning with
  | none =>
    have hresolve := resolve_missing schema [.state name]
    rwa [List.flatMap_singleton, List.map_singleton] at hresolve
  | some denoted => cases denoted <;> rfl

theorem Source.Part.outcome_missing (part : Part) :
    (part.outcome schema).warnings.filterMap Warning.slot? =
      schema.missing ((part.outcome schema).node?.elim [] SubNode.unresolvedSlots) := by
  cases part with
  | rejected failure => rfl
  | other kind index => rfl
  | function declaration =>
    cases hlower : lowerFunction schema declaration with
    | error failure => simp only [outcome, hlower]; rfl
    | ok lowered =>
      obtain ⟨body, _, rfl⟩ := lowerFunction_eq_ok.mp hlower
      simp only [outcome, hlower]
      exact functionWarnings_missing schema declaration body
  | declarator value =>
    cases hlower : lowerDeclarator schema value with
    | error failure => simp only [outcome, hlower]; rfl
    | ok lowered =>
      obtain ⟨name, _, meaning, _, _, rfl⟩ := lowerDeclarator_eq_ok.mp hlower
      simp only [outcome, hlower]
      exact variableOf_missing schema name meaning

theorem lowerEvents_unresolvedSlots :
    (lowerEvents schema).flatMap SubNode.unresolvedSlots = [] := by
  rw [List.flatMap_eq_nil_iff]
  intro node hnode
  obtain ⟨event, _, rfl⟩ := List.mem_map.mp hnode
  rfl

/-- The warnings of a pass are about the slots that its nodes leave unresolved, but for those with
an empty type. -/
theorem gathered_missing (events : Bool) (contract : Source.Contract) :
    (gathered schema events contract).warnings.filterMap Warning.slot? =
      schema.missing (gathered schema events contract).contract.unresolvedSlots := by
  have hevents : (if events then lowerEvents schema else []).flatMap SubNode.unresolvedSlots =
      [] := by
    split
    · exact lowerEvents_unresolvedSlots schema
    · rfl
  rw [gathered_warnings, Target.Contract.unresolvedSlots, gathered_subNodes, List.flatMap_append,
    hevents, List.append_nil, outcomes]
  induction contract.parts with
  | nil => rfl
  | cons part parts ih =>
    have hpart := part.outcome_missing schema
    rw [List.map_cons, List.flatMap_cons, List.filterMap_append, ih, hpart, List.filterMap_cons]
    cases (part.outcome schema).node? with
    | none => rfl
    | some node => simp [Schema.missing]

end Missing

/-- A pass over a contract warns, in order, about every slot that it leaves unresolved, except
where the schema has an entry for the slot and its type is empty. -/
theorem lower_reports_unresolved (schema : Schema) (source : Source.Contract) :
    ∃ lowering, lower schema ⟨.permissive, false⟩ source = .ok lowering ∧
      lowering.warnings.filterMap Warning.report? =
        (lowering.contract.unresolvedSlots.filter fun slot =>
          schema.type? slot ≠ some "").map TypeSlot.report := by
  refine ⟨_, lower_permissive schema false source, ?_⟩
  have hmissing := congrArg (List.map TypeSlot.report) (gathered_missing schema false source)
  rwa [List.map_filterMap] at hmissing

/-- The type of an entry that is there can be empty, and then nothing is warned about. -/
theorem empty_type_not_reported :
    let text : String := "state: [\x7bname: v, type: ''\x7d]"
    let value : Json := .object [("id", .object [("name", .text "v")])]
    let source : Source.Contract := ⟨"C", [.object
      [("declarations", .array [value]), ("type", .text "VariableStatement")]]⟩
    ∃ schema lowering, Schema.parse? text = some schema ∧
      lower schema ⟨.permissive, false⟩ source = .ok lowering ∧
      lowering.contract.unresolvedSlots = [.state "v"] ∧ lowering.warnings = [] := by
  intro text value source
  have hparse : Schema.parse? text = some ⟨[⟨"v", "", false⟩], [], []⟩ := by decide +kernel
  exact ⟨_, _, hparse, lower_permissive _ _ _, by decide, by decide⟩

/-- Warnings are about slots that are left unresolved, in the order of the slots, each in its own
place: none is about a node that is not there, and none is repeated. -/
theorem lower_reports_sublist {schema : Schema} {options : Options} {source : Source.Contract}
    {lowering : Lowering} (h : lower schema options source = .ok lowering) :
    (lowering.warnings.filterMap Warning.report?).Sublist
        (lowering.contract.unresolvedSlots.map TypeSlot.report) ∧
      (∀ slot, .unresolved slot ∈ lowering.warnings →
        ∃ node ∈ lowering.contract.subNodes, slot ∈ node.unresolvedSlots) ∧
      ∀ slot, (lowering.warnings.filterMap Warning.report?).count slot.report ≤
        lowering.contract.unresolvedSlots.count slot := by
  have hsublist : (lowering.warnings.filterMap Warning.slot?).Sublist
      lowering.contract.unresolvedSlots := by
    rw [lower_eq_ok h, gathered_missing]
    exact List.filter_sublist
  have hreports : (lowering.warnings.filterMap Warning.report?).Sublist
      (lowering.contract.unresolvedSlots.map TypeSlot.report) := by
    have hmapped := hsublist.map TypeSlot.report
    rwa [List.map_filterMap] at hmapped
  refine ⟨hreports, fun slot hslot => ?_, fun slot => ?_⟩
  · have hmem : slot ∈ lowering.warnings.filterMap Warning.slot? :=
      List.mem_filterMap.mpr ⟨_, hslot, rfl⟩
    exact List.mem_flatMap.mp (hsublist.subset hmem)
  · rw [← List.count_map_of_injective _ _ TypeSlot.report_injective]
    exact hreports.count_le _

/-- A function with a repeated parameter, of which nothing is known, between two variables. -/
theorem lower_reports_sublist_repeated :
    let declarator (name : String) : Json := .object [("id", .object [("name", .text name)])]
    let parameter : Json := .object [("name", .text "p")]
    let function : Json := .object [("name", .object [("name", .text "f")]),
      ("params", .array [parameter, parameter]), ("type", .text "FunctionDeclaration")]
    let statement (name : String) : Json := .object
      [("declarations", .array [declarator name]), ("type", .text "VariableStatement")]
    let schema : Schema := ⟨[⟨"u", "", false⟩], [], []⟩
    let source : Source.Contract := ⟨"C", [statement "u", function, statement "v"]⟩
    ∃ lowering, lower schema ⟨.strict, true⟩ source = .ok lowering ∧
      lowering.warnings = [.unresolved (.parameter "f" "p"), .unresolved (.parameter "f" "p"),
        .unresolved (.result "f"), .unresolved (.state "v")] ∧
      (lowering.warnings.filterMap Warning.report?).Sublist
        (lowering.contract.unresolvedSlots.map TypeSlot.report) := by
  intro declarator parameter function statement schema source
  have hlower : lower schema ⟨.strict, true⟩ source = .ok (gathered schema true source) := by
    decide
  exact ⟨_, hlower, by decide, (lower_reports_sublist hlower).1⟩

end ContractLowering
