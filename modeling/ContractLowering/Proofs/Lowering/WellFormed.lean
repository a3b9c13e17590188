import ContractLowering.Proofs.Lowering.Canonical

/-! # Well-formed contracts

What every lowered contract looks like: a state variable is declared alone, public, with one
literal that its type holds; a function has one anonymous return slot; parameters, return slots
and events carry nothing but types. Whatever the source and the schema say, lowering gives no
other contract.
-/

namespace ContractLowering

namespace Target

/-- The literals that a variable of a type can start with. -/
def ElementaryType.Holds : ElementaryType → Literal → Prop
  | uint8, .number numeral unit => unit = none ∧ ∃ n ≤ 255, IsNumeral numeral n
  | address, .number _ unit => unit = none
  | string, .text value parts isUnicode => parts = [value] ∧ isUnicode = [false]
  | bool, .boolean _ => True
  | _, _ => False

/-- A variable whose identifier repeats its name and that has no mark of its own. -/
structure Variable.Unmarked (v : Variable) : Prop where
  identifier : v.identifier = v.name
  isDeclaredConst : v.isDeclaredConst = false
  isIndexed : v.isIndexed = false
  isImmutable : v.isImmutable = false
  overrides : v.overrides = none
  storageLocation : v.storageLocation = none

/-- A state variable with this initial value, if it has one. Only addresses are payable. -/
structure Variable.IsState (v : Variable) (initialValue : Option Literal) : Prop
    extends v.Unmarked where
  named : v.name.isSome = true
  expression : v.expression = initialValue
  visibility : v.visibility = some .publicAccess
  isStateVar : v.isStateVar = true
  holds : ∀ literal ∈ initialValue, v.typeName.type.Holds literal
  mutability : v.typeName.mutability = none ∨
    v.typeName.mutability = some .payable ∧ v.typeName.type = .address

/-- A parameter or a return slot: a type, and a name if it is not anonymous. -/
structure Variable.IsTyped (v : Variable) : Prop extends v.Unmarked where
  mutability : v.typeName.mutability = none
  expression : v.expression = none
  visibility : v.visibility = none
  isStateVar : v.isStateVar = false

structure Function.WellFormed (definition : Function) : Prop where
  parameters : ∀ v ∈ definition.parameters, v.IsTyped ∧ v.name.isSome = true
  result : ∃ v, definition.results = [v] ∧ v.IsTyped ∧ v.name = none
  modifiers : definition.modifiers = []
  overrides : definition.overrides = none
  isConstructor : definition.isConstructor = false
  isReceiveEther : definition.isReceiveEther = false
  isFallback : definition.isFallback = false
  isVirtual : definition.isVirtual = false

structure Event.WellFormed (definition : Event) : Prop where
  parameters : ∀ v ∈ definition.parameters, v.IsTyped ∧ v.name.isSome = true
  isAnonymous : definition.isAnonymous = false

def SubNode.WellFormed : SubNode → Prop
  | state declaration => ∃ v, declaration.declared = [v] ∧ v.IsState declaration.initialValue
  | function definition => definition.WellFormed
  | event definition => definition.WellFormed

/-- A contract of well-formed nodes, in which no name of a type is that of another one. -/
structure Contract.WellFormed (contract : Contract) : Prop where
  bases : contract.bases = []
  kind : contract.kind = "contract"
  subNodes : ∀ node ∈ contract.subNodes, node.WellFormed
  canonical : contract.Canonical

theorem Variable.slot_isTyped (type : ElementaryType) : (slot (.plain type)).IsTyped where
  identifier := rfl
  isDeclaredConst := rfl
  isIndexed := rfl
  isImmutable := rfl
  overrides := rfl
  storageLocation := rfl
  mutability := rfl
  expression := rfl
  visibility := rfl
  isStateVar := rfl

theorem Variable.parameter_isTyped (name : String) (type : ElementaryType) :
    (parameter name (.plain type)).IsTyped :=
  { slot_isTyped type with identifier := rfl }

end Target

theorem Value.holds {value : Value} (h : value.InRange) : value.type.Holds value.literal := by
  cases value with
  | text s => exact ⟨rfl, rfl⟩
  | boolean b => trivial
  | uint8 n => exact ⟨rfl, n, h, isNumeral_repr n⟩
  | address s => rfl

section Nodes

variable {schema : Schema}

theorem declare_wellFormed {name : String} {type : Target.ElementaryType}
    {entry : Option Schema.StateEntry} {literal : Option Target.Literal}
    (h : ∀ l ∈ literal, type.Holds l) :
    (Target.SubNode.state (.declare name ⟨type, markPayable type entry⟩ literal)).WellFormed :=
  ⟨_, rfl,
    { Target.Variable.parameter_isTyped name type with
      named := rfl
      expression := rfl
      visibility := rfl
      isStateVar := rfl
      holds := h
      mutability := markPayable_eq type entry }⟩

theorem variableOf_wellFormed (name : String) {meaning : Option Value}
    (h : ∀ denoted ∈ meaning, denoted.InRange) :
    (Target.SubNode.state (variableOf schema name meaning).node).WellFormed := by
  cases meaning with
  | none => exact declare_wellFormed nofun
  | some denoted =>
    refine declare_wellFormed ?_
    rintro _ ⟨⟩
    exact Value.holds (h denoted rfl)

theorem functionOf_wellFormed (function : Source.Function) (body : List Target.Statement) :
    (functionOf schema function body).WellFormed where
  parameters v hv := by
    obtain ⟨name, type, rfl⟩ := exists_of_mem_parameters hv
    exact ⟨Target.Variable.parameter_isTyped _ _, rfl⟩
  result := ⟨_, rfl, Target.Variable.slot_isTyped _, rfl⟩
  modifiers := rfl
  overrides := rfl
  isConstructor := rfl
  isReceiveEther := rfl
  isFallback := rfl
  isVirtual := rfl

theorem lowerEvents_wellFormed {node : Target.SubNode} (h : node ∈ lowerEvents schema) :
    node.WellFormed := by
  obtain ⟨event, _, rfl⟩ := List.mem_map.mp h
  refine ⟨fun v hv => ?_, rfl⟩
  obtain ⟨parameter, _, rfl⟩ := List.mem_map.mp hv
  exact ⟨Target.Variable.parameter_isTyped _ _, rfl⟩

end Nodes

/-- Every contract that lowering succeeds with is well-formed. -/
theorem lower_wellFormed {schema : Schema} {options : Options} {source : Source.Contract}
    {lowering : Lowering} (h : lower schema options source = .ok lowering) :
    lowering.contract.WellFormed where
  bases := by rw [lower_eq_ok h]; rfl
  kind := by rw [lower_eq_ok h]; rfl
  subNodes := forall_subNodes (fun name _ => variableOf_wellFormed name) functionOf_wellFormed
    (fun _ => lowerEvents_wellFormed) h
  canonical := lower_canonical h

/-- A payable address, the greatest number written as a double, and an event. -/
theorem lower_wellFormed_account :
    let greatest : Double := ⟨false, 0x1FE00000000000, -45, by decide⟩
    let call : Json := .object
      [("arguments", .array [.object [("value", .number (.double greatest))]]),
        ("callee", .object [("name", .text "u8")]), ("type", .text "CallExpression")]
    let owner : Json := .object [("id", .object [("name", .text "owner")])]
    let nonce : Json := .object [("id", .object [("name", .text "nonce")]), ("initializer", call)]
    let source : Source.Contract := ⟨"Account", [.object
      [("declarations", .array [owner, nonce]), ("type", .text "VariableStatement")]]⟩
    let schema : Schema := ⟨[⟨"owner", "address", true⟩], [], [("Sent", [⟨"to", "address"⟩])]⟩
    ∃ lowering, lower schema ⟨.strict, true⟩ source = .ok lowering ∧
      lowering.contract.subNodes.length = 3 ∧ lowering.contract.WellFormed := by
  intro greatest call owner nonce source schema
  have hlower : lower schema ⟨.strict, true⟩ source = .ok (gathered schema true source) := by
    decide
  exact ⟨_, hlower, by decide, lower_wellFormed hlower⟩

end ContractLowering
