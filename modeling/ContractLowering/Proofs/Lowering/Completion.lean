import ContractLowering.Proofs.Lowering.Lookup
import ContractLowering.Proofs.Schema.Supply

/-! # Completed schemas

The warnings of a pass list what its schema lacks. Once a type is supplied for each of them, a
second pass warns about no slot and fails where the first one failed, and its contract differs in
just those slots that were warned about, which have the supplied types now.
-/

namespace ContractLowering

open Target (ElementaryType SubNode)

namespace Target

def Variable.retype (change : ElementaryType → ElementaryType) (v : Variable) : Variable :=
  { v with typeName := { v.typeName with type := change v.typeName.type } }

def Function.retype (change : TypeSlot → ElementaryType → ElementaryType)
    (definition : Function) : Function :=
  { definition with
    parameters := definition.parameters.map fun v =>
      v.retype (change (.parameter definition.name (v.name.getD "")))
    results := definition.results.map fun v => v.retype (change (.result definition.name)) }

/-- The node with the types in its slots changed, and nothing else. -/
def SubNode.retype (change : TypeSlot → ElementaryType → ElementaryType) : SubNode → SubNode
  | state declaration =>
    state { declaration with
      declared := declaration.declared.map fun v =>
        v.retype (change (.state (v.name.getD ""))) }
  | function definition => function (definition.retype change)
  | event definition => event definition

theorem SubNode.retype_declare (change : TypeSlot → ElementaryType → ElementaryType)
    (name : String) (typeName : TypeName) (literal : Option Literal) :
    (state (.declare name typeName literal)).retype change =
      state (.declare name { typeName with type := change (.state name) typeName.type }
        literal) := rfl

theorem SubNode.typeSlots_retype (change : TypeSlot → ElementaryType → ElementaryType)
    (node : SubNode) :
    (node.retype change).typeSlots =
      node.typeSlots.map fun slot => (slot.1, change slot.1 slot.2) := by
  cases node with
  | state declaration =>
    simp only [retype, typeSlots, List.map_map]
    rfl
  | function definition =>
    simp only [retype, Function.retype, typeSlots, List.map_append, List.map_map]
    rfl
  | event definition => rfl

end Target

/-- The slots that a lowering warns about, one for each warning. -/
def Lowering.missed (lowering : Lowering) : List TypeSlot :=
  lowering.warnings.filterMap Warning.slot?

/-- The chosen type where a slot that is among the missed ones holds none, and otherwise the type
that is there. -/
def TypeSlot.fill (choice : TypeSlot → String) (missed : List TypeSlot) (slot : TypeSlot)
    (type : ElementaryType) : ElementaryType :=
  if type = .unresolved ∧ slot ∈ missed then .ofSchema (choice slot) else type

namespace TypeSlot

variable {choice : TypeSlot → String} {missed : List TypeSlot} {slot : TypeSlot}
  {type : ElementaryType}

theorem fill_of_mem (h : slot ∈ missed) :
    slot.fill choice missed .unresolved = .ofSchema (choice slot) :=
  if_pos ⟨rfl, h⟩

theorem fill_of_notMem (h : slot ∉ missed) : slot.fill choice missed type = type :=
  if_neg fun hboth => h hboth.2

theorem fill_of_resolved (h : type ≠ .unresolved) : slot.fill choice missed type = type :=
  if_neg fun hboth => h hboth.1

theorem fill_eq_unresolved (h : ∀ slot ∈ missed, choice slot ≠ "") :
    slot.fill choice missed type = .unresolved ↔ slot ∉ missed ∧ type = .unresolved := by
  by_cases hmissed : slot ∈ missed
  · by_cases htype : type = .unresolved
    · subst htype
      rw [fill_of_mem hmissed, ofSchema_eq_unresolved]
      simp [hmissed, h slot hmissed]
    · simp [fill_of_resolved htype, htype]
  · simp [fill_of_notMem hmissed, hmissed]

end TypeSlot

theorem unresolvedAmong_fill {choice : TypeSlot → String} {missed : List TypeSlot}
    (h : ∀ slot ∈ missed, choice slot ≠ "") (slots : List (TypeSlot × ElementaryType)) :
    Target.unresolvedAmong (slots.map fun slot => (slot.1, slot.1.fill choice missed slot.2)) =
      (Target.unresolvedAmong slots).filter fun slot => slot ∉ missed := by
  unfold Target.unresolvedAmong
  rw [List.filter_map, List.map_map, List.filter_map, List.filter_filter]
  simp [Function.comp_def, TypeSlot.fill_eq_unresolved h, Bool.decide_and]

/-- The second schema has the chosen types for slots that the first one lacks, and says what the
first one says otherwise. -/
structure Schema.Completes (choice : TypeSlot → String) (missed : List TypeSlot)
    (schema completed : Schema) : Prop extends schema.MarksAlike completed where
  lacking : ∀ slot ∈ missed, schema.type? slot = none
  type?_eq : ∀ slot, completed.type? slot =
    if slot ∈ missed then some (choice slot) else schema.type? slot

section Completes

variable {choice : TypeSlot → String} {missed : List TypeSlot} {schema completed : Schema}

theorem Schema.completes_supplyAll (h : ∀ slot ∈ missed, schema.type? slot = none) :
    schema.Completes choice missed (schema.supplyAll choice missed) where
  toMarksAlike := schema.supplyAll_marksAlike choice missed
  lacking := h
  type?_eq := by
    refine Schema.type?_supplyAll fun slot hslot given hgiven => ?_
    rw [h slot hslot] at hgiven
    exact nomatch hgiven

namespace Schema.Completes

variable (h : schema.Completes choice missed completed)
include h

theorem typeAt_eq (slot : TypeSlot) :
    completed.typeAt slot = slot.fill choice missed (schema.typeAt slot) := by
  have htype := h.type?_eq slot
  by_cases hmissed : slot ∈ missed
  · rw [if_pos hmissed] at htype
    rw [typeAt_of_eq_some htype, typeAt_of_eq_none (h.lacking slot hmissed),
      TypeSlot.fill_of_mem hmissed]
  · rw [if_neg hmissed] at htype
    rw [TypeSlot.fill_of_notMem hmissed, typeAt, typeAt, htype]

/-- An entry that is supplied is not payable. -/
theorem mark_eq (name : String) :
    markPayable (completed.typeAt (.state name)) (completed.stateVariable? name) =
      markPayable (schema.typeAt (.state name)) (schema.stateVariable? name) := by
  have hpayable := h.payable name
  -- only where the entry is supplied do the types differ, and there it is not payable
  by_cases hmissed : .state name ∈ missed
  · have hentry : schema.stateVariable? name = none :=
      Option.map_eq_none_iff.mp (h.lacking _ hmissed)
    rw [hentry, Option.any_none] at hpayable
    simp [markPayable, hentry, hpayable]
  · rw [h.typeAt_eq, TypeSlot.fill_of_notMem hmissed, markPayable, markPayable, hpayable]

theorem bareVariable_eq (name : String) :
    SubNode.state (bareVariable completed name).node =
      (SubNode.state (bareVariable schema name).node).retype (TypeSlot.fill choice missed) := by
  rw [bareVariable_node, bareVariable_node, SubNode.retype_declare, h.mark_eq, h.typeAt_eq]

/-- An initial value leaves nothing to fill. -/
theorem initializedVariable_eq (name : String) {inferred : Inferred}
    (htype : inferred.type ≠ .unresolved) :
    SubNode.state (initializedVariable completed name inferred) =
      (SubNode.state (initializedVariable schema name inferred)).retype
        (TypeSlot.fill choice missed) := by
  have hmark : markPayable inferred.type (completed.stateVariable? name) =
      markPayable inferred.type (schema.stateVariable? name) := by
    rw [markPayable, markPayable, h.payable]
  rw [initializedVariable, initializedVariable, SubNode.retype_declare,
    TypeSlot.fill_of_resolved htype, hmark]

theorem functionOf_eq (declaration : Source.Function) (body : List Target.Statement) :
    functionOf completed declaration body =
      (functionOf schema declaration body).retype (TypeSlot.fill choice missed) := by
  simp only [functionOf, loweredParameters, List.map_map, Function.comp_def, lowerParameter_node,
    resultType_node, h.typeAt_eq, h.keywords, Target.Function.retype]
  rfl

end Schema.Completes

end Completes

section Missed

variable {choice : TypeSlot → String} {schema : Schema} {contract : Source.Contract}

theorem Lowering.mem_missed {lowering : Lowering} {slot : TypeSlot} :
    slot ∈ lowering.missed ↔ .unresolved slot ∈ lowering.warnings := by
  constructor
  · intro hslot
    obtain ⟨warning, hwarning, hfound⟩ := List.mem_filterMap.mp hslot
    cases warning with
    | unresolved found => cases hfound; exact hwarning
    | skipped kind index => exact nomatch hfound
  · intro hwarning
    exact List.mem_filterMap.mpr ⟨_, hwarning, rfl⟩

/-- The missed slots are those that can be warned about and that the schema lacks. -/
theorem mem_gathered_missed {slot : TypeSlot} :
    slot ∈ (gathered schema false contract).missed ↔
      .unresolved slot ∈ contract.possibleWarnings ∧ schema.type? slot = none := by
  rw [Lowering.mem_missed, gathered_warnings_eq_filter, List.mem_filter]
  simp [Warning.stands]

/-- Of the unresolved slots, those are filled that were warned about, one for each warning. -/
theorem filter_mem_missed :
    ((gathered schema false contract).contract.unresolvedSlots.filter fun slot =>
        slot ∈ (gathered schema false contract).missed) =
      (gathered schema false contract).missed := by
  have hmissed : (gathered schema false contract).missed =
      schema.missing (gathered schema false contract).contract.unresolvedSlots :=
    gathered_missing schema false contract
  rw [hmissed, Schema.missing]
  refine List.filter_congr fun slot hslot => ?_
  simp [List.mem_filter, hslot]

variable {completed : Schema}
  (h : schema.Completes choice (gathered schema false contract).missed completed)
include h

theorem Schema.Completes.gathered_warnings :
    (gathered completed false contract).warnings =
      (gathered schema false contract).warnings.filter Warning.isSkipped := by
  rw [gathered_skipped_warnings, gathered_warnings_eq_filter]
  refine List.filter_congr fun warning hwarning => ?_
  cases warning with
  | skipped kind index => rfl
  | unresolved slot =>
    -- what could be warned about and was not missed has an entry already
    have hanswered : completed.type? slot ≠ none := by
      rw [h.type?_eq]
      split
      · exact Option.some_ne_none _
      · rename_i hslot
        exact fun hnone => hslot (mem_gathered_missed.mpr ⟨hwarning, hnone⟩)
    exact Option.isNone_eq_false_iff.mpr (Option.isSome_iff_ne_none.mpr hanswered)

theorem Schema.Completes.gathered_subNodes :
    (gathered completed false contract).contract.subNodes =
      (gathered schema false contract).contract.subNodes.map
        (SubNode.retype (TypeSlot.fill choice (gathered schema false contract).missed)) := by
  have hnodes : List.Forall₂ (fun node node' => SubNode.retype
      (TypeSlot.fill choice (gathered schema false contract).missed) node = node')
      (gathered schema false contract).contract.subNodes
      (gathered completed false contract).contract.subNodes := by
    refine forall₂_subNodes contract (fun name _ => (h.bareVariable_eq name).symm)
      (fun name inferred hdraft => ?_)
      fun declaration body _ => congrArg SubNode.function (h.functionOf_eq declaration body).symm
    obtain ⟨part, _, hpart⟩ := List.mem_map.mp hdraft
    exact (h.initializedVariable_eq name (part.type_ne_unresolved_of_draft hpart)).symm
  rw [← List.forall₂_map_left_iff, List.forall₂_eq_eq_eq] at hnodes
  exact hnodes.symm

end Missed

/-- With a type supplied for everything that a pass warns about, a pass warns about skipped
elements only and fails as before, and its contract is the same but for the slots that were warned
about, each of which has the type supplied for it. -/
theorem lower_supplied (schema : Schema) (choice : TypeSlot → String) (source : Source.Contract) :
    ∃ lowering completed,
      lower schema ⟨.permissive, false⟩ source = .ok lowering ∧
      lower (schema.supplyAll choice lowering.missed) ⟨.permissive, false⟩ source =
        .ok completed ∧
      completed.missed = [] ∧
      completed.failures = lowering.failures ∧
      completed.warnings = lowering.warnings.filter Warning.isSkipped ∧
      completed.contract = { lowering.contract with
        subNodes := lowering.contract.subNodes.map
          (SubNode.retype (TypeSlot.fill choice lowering.missed)) } ∧
      (lowering.contract.unresolvedSlots.filter fun slot => slot ∈ lowering.missed) =
        lowering.missed ∧
      ((∀ slot ∈ lowering.missed, choice slot ≠ "") →
        completed.contract.unresolvedSlots =
          lowering.contract.unresolvedSlots.filter fun slot => slot ∉ lowering.missed) := by
  have hcompletes : schema.Completes choice (gathered schema false source).missed _ :=
    Schema.completes_supplyAll fun _ hslot => (mem_gathered_missed.mp hslot).2
  have hwarnings := hcompletes.gathered_warnings
  have hnodes := hcompletes.gathered_subNodes
  refine ⟨_, _, lower_permissive schema false source, lower_permissive _ false source, ?_,
    gathered_failures_eq source, hwarnings, congrArg (Target.Contract.ofSubNodes source.name) hnodes,
    filter_mem_missed, fun hchoice => ?_⟩
  · rw [Lowering.missed, hwarnings, List.filterMap_filter, List.filterMap_eq_nil_iff]
    intro warning _
    cases warning <;> rfl
  · unfold Target.Contract.unresolvedSlots
    rw [hnodes, List.flatMap_map, List.filter_flatMap]
    refine List.flatMap_congr fun node _ => ?_
    rw [SubNode.unresolvedSlots, SubNode.typeSlots_retype, unresolvedAmong_fill hchoice]
    rfl

/-- A variable with an empty type beside a missing one that is declared twice, a function with a
repeated parameter, and a function that fails. -/
theorem lower_supplied_repeated :
    let address : Json := .object
      [("arguments", .array [.object [("value", .text "0x0")]]),
        ("callee", .object [("name", .text "address")]), ("type", .text "CallExpression")]
    let identifier (name : String) : String × Json := ("id", .object [("name", .text name)])
    let statement : Json := .object
      [("declarations", .array [.object [identifier "u"], .object [identifier "v"],
          .object [identifier "v", ("initializer", address)]]),
        ("type", .text "VariableStatement")]
    let function (name : String) (body : Json) : Json := .object
      [("body", body), ("name", .object [("name", .text name)]),
        ("params", .array [.object [("name", .text "p")], .object [("name", .text "p")]]),
        ("type", .text "FunctionDeclaration")]
    let source : Source.Contract :=
      ⟨"C", [statement, function "f" .null, function "g" (.array [.null])]⟩
    let schema : Schema := ⟨[⟨"u", "", false⟩], [], []⟩
    let choice : TypeSlot → String := fun
      | .state _ => "address"
      | .parameter _ _ => "bool"
      | .result _ => "u8"
    ∃ lowering completed,
      lower schema ⟨.permissive, false⟩ source = .ok lowering ∧
      lowering.missed =
        [.state "v", .parameter "f" "p", .parameter "f" "p", .result "f"] ∧
      (∀ slot ∈ lowering.missed, choice slot ≠ "") ∧
      schema.supplyAll choice lowering.missed =
        ⟨[⟨"u", "", false⟩, ⟨"v", "address", false⟩],
          [⟨"f", [], some "u8", [⟨"p", "bool"⟩, ⟨"p", "bool"⟩], []⟩], []⟩ ∧
      lower (schema.supplyAll choice lowering.missed) ⟨.permissive, false⟩ source =
        .ok completed ∧
      completed.missed = [] ∧ completed.failures = lowering.failures ∧
      completed.contract.unresolvedSlots = [.state "u"] := by
  intro address identifier statement function source schema choice
  obtain ⟨lowering, completed, hlowering, hcompleted, hnone, hfailures, _, _, _, hunresolved⟩ :=
    lower_supplied schema choice source
  obtain rfl := lower_eq_ok hlowering
  have hchoice : ∀ slot ∈ (gathered schema false source).missed, choice slot ≠ "" := by decide
  exact ⟨_, completed, hlowering, by decide, hchoice, by decide, hcompleted, hnone, hfailures,
    (hunresolved hchoice).trans (by decide)⟩

end ContractLowering
