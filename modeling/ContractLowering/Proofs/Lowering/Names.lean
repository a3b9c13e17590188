import ContractLowering.Proofs.Lowering.TypeSlot
import ContractLowering.Proofs.Source.Agreement

/-! # Changes of names

A change of names is carried over to schemas and to everything that a pass answers with: nodes,
failures and warnings. If it keeps names apart, then a changed schema says about a changed name what
the schema says about the name.
-/

namespace ContractLowering

section Changes

variable (r : String → String)

def TypeSlot.rename : TypeSlot → TypeSlot
  | state name => state (r name)
  | parameter function name => parameter (r function) (r name)
  | result function => result (r function)

/-- The kind of a skipped element is no name. -/
def Warning.rename : Warning → Warning
  | unresolved slot => unresolved (slot.rename r)
  | skipped kind index => skipped kind index

def Remark.rename : Remark → Remark
  | .variable name => .variable (name.map r)
  | .function name => .function (r name)
  | .skipped kind index => .skipped kind index

namespace Target

def Variable.rename (v : Variable) : Variable :=
  { v with name := v.name.map r, identifier := v.identifier.map r }

def StateVariable.rename (declaration : StateVariable) : StateVariable :=
  { declaration with declared := declaration.declared.map (Variable.rename r) }

/-- An operator is no name. -/
def Statement.rename : Statement → Statement
  | returnBinary operator left right => returnBinary operator (r left) (r right)

def Function.rename (definition : Function) : Function :=
  { definition with
    name := r definition.name
    parameters := definition.parameters.map (Variable.rename r)
    results := definition.results.map (Variable.rename r)
    body := definition.body.map (Statement.rename r) }

/-- Events are the schema's own. -/
def SubNode.rename : SubNode → SubNode
  | state declaration => state (declaration.rename r)
  | function definition => function (definition.rename r)
  | event definition => event definition

end Target

/-- A node that is changed, with its warnings. -/
def Lowered.rename {α : Type} (change : α → α) (lowered : Lowered α) : Lowered α :=
  ⟨change lowered.node, lowered.warnings.map (Warning.rename r)⟩

def Outcome.rename : Outcome → Outcome
  | lowered node remark => lowered (node.rename r (Target.SubNode.rename r)) (remark.rename r)
  | failed failure => failed (failure.rename r)
  | skipped kind index => skipped kind index

/-- The name of the contract stays. -/
def Lowering.rename (lowering : Lowering) : Lowering where
  contract := { lowering.contract with
    subNodes := lowering.contract.subNodes.map (Target.SubNode.rename r) }
  failures := lowering.failures.map (Failure.rename r)
  warnings := lowering.warnings.map (Warning.rename r)

namespace Schema

def StateEntry.rename (entry : StateEntry) : StateEntry :=
  { entry with name := r entry.name }

def TypedName.rename (parameter : TypedName) : TypedName :=
  { parameter with name := r parameter.name }

def Definition.rename (definition : Definition) : Definition :=
  { definition with
    name := r definition.name
    parameters := definition.parameters.map (TypedName.rename r) }

/-- The names of state variables, functions and parameters are changed. -/
def rename (schema : Schema) : Schema :=
  { schema with
    state := schema.state.map (StateEntry.rename r)
    definitions := schema.definitions.map (Definition.rename r) }

end Schema

end Changes

namespace Outcome

variable (r : String → String) (outcome : Outcome)

@[simp]
theorem node?_rename : (outcome.rename r).node? = outcome.node?.map (.rename r) := by
  cases outcome <;> rfl

@[simp]
theorem failure?_rename : (outcome.rename r).failure? = outcome.failure?.map (.rename r) := by
  cases outcome <;> rfl

@[simp]
theorem warnings_rename : (outcome.rename r).warnings = outcome.warnings.map (.rename r) := by
  cases outcome <;> rfl

end Outcome

section Unchanged

@[simp]
theorem TypeSlot.rename_id : rename id = id := by
  funext slot
  cases slot <;> rfl

@[simp]
theorem Warning.rename_id : rename id = id := by
  funext warning
  cases warning <;> simp [rename]

@[simp]
theorem Remark.rename_id : rename id = id := by
  funext remark
  cases remark <;> simp [rename]

namespace Target

@[simp]
theorem Variable.rename_id : rename id = id := by
  funext v
  simp [rename]

@[simp]
theorem StateVariable.rename_id : rename id = id := by
  funext declaration
  simp [rename]

@[simp]
theorem Statement.rename_id : rename id = id := by
  funext statement
  cases statement
  rfl

@[simp]
theorem Function.rename_id : rename id = id := by
  funext definition
  simp [rename]

@[simp]
theorem SubNode.rename_id : rename id = id := by
  funext node
  cases node <;> simp [rename]

end Target

@[simp]
theorem Outcome.rename_id : rename id = id := by
  funext outcome
  cases outcome <;> simp [rename, Lowered.rename]

namespace Schema

@[simp]
theorem StateEntry.rename_id : rename id = id := by
  funext entry
  rfl

@[simp]
theorem TypedName.rename_id : rename id = id := by
  funext parameter
  rfl

@[simp]
theorem Definition.rename_id : rename id = id := by
  funext definition
  simp [rename]

@[simp]
theorem rename_id : rename id = id := by
  funext schema
  simp [rename]

end Schema

end Unchanged

section Lookup

variable {r : String → String} (hr : Function.Injective r) (schema : Schema)

include hr

/-- The first entry of a changed name is the changed entry of the name. -/
theorem find?_rename {α : Type} {name : α → String} {change : α → α} (entries : List α)
    (sought : String) (h : ∀ entry, name (change entry) = r (name entry)) :
    (entries.map change).find? (fun entry => name entry = r sought) =
      (entries.find? fun entry => name entry = sought).map change := by
  rw [List.find?_map]
  refine congrArg (fun found => (entries.find? found).map change) (funext fun entry => ?_)
  rw [Function.comp_apply, h, decide_eq_decide, hr.eq_iff]

theorem Schema.stateVariable?_rename (name : String) :
    (schema.rename r).stateVariable? (r name) = (schema.stateVariable? name).map (.rename r) :=
  find?_rename hr schema.state name fun _ => rfl

theorem Schema.definition?_rename (name : String) :
    (schema.rename r).definition? (r name) = (schema.definition? name).map (.rename r) :=
  find?_rename hr schema.definitions name fun _ => rfl

theorem Schema.Definition.parameter?_rename (definition : Definition) (name : String) :
    (definition.rename r).parameter? (r name) = (definition.parameter? name).map (.rename r) :=
  find?_rename hr definition.parameters name fun _ => rfl

/-- The changed schema gives the same type for a changed slot. -/
theorem Schema.type?_rename (slot : TypeSlot) :
    (schema.rename r).type? (slot.rename r) = schema.type? slot := by
  cases slot with
  | state name =>
    simp only [TypeSlot.rename, type?, schema.stateVariable?_rename hr, Option.map_map]
    rfl
  | parameter function name =>
    simp only [TypeSlot.rename, type?, schema.definition?_rename hr, Option.bind_map]
    cases schema.definition? function with
    | none => rfl
    | some definition =>
      simp only [Option.bind_some, Function.comp_apply, definition.parameter?_rename hr,
        Option.map_map]
      rfl
  | result function =>
    simp only [TypeSlot.rename, type?, schema.definition?_rename hr, Option.bind_map]
    rfl

theorem markPayable_rename (type : Target.ElementaryType) (name : String) :
    markPayable type ((schema.rename r).stateVariable? (r name)) =
      markPayable type (schema.stateVariable? name) := by
  rw [schema.stateVariable?_rename hr]
  cases schema.stateVariable? name <;> rfl

theorem functionKeywords_rename (name : String) :
    functionKeywords (schema.rename r) (r name) = functionKeywords schema name := by
  rw [functionKeywords, functionKeywords, schema.definition?_rename hr]
  cases schema.definition? name <;> rfl

end Lookup

end ContractLowering
