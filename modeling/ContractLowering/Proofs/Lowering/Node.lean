import ContractLowering.Lowering.Contract
import ContractLowering.Proofs.Source.Member

/-! # Lowered variables and functions

A lowered variable depends on its initializer or, without one, on the schema's entry. A lowered
function is determined by its signature once its body is lowered. Both warn about nothing but
type slots for which the schema has no entry.
-/

namespace ContractLowering

variable {schema : Schema}

/-- Whether a warning is about a body element that is not lowered. -/
def Warning.isSkipped : Warning → Bool
  | unresolved _ => false
  | skipped _ _ => true

theorem resolve_isSkipped {slot : TypeSlot} {type : Option String} {warning : Warning}
    (h : warning ∈ (resolve slot type).warnings) : warning.isSkipped = false := by
  cases type with
  | some type => simp [resolve] at h
  | none =>
    rw [resolve, List.mem_singleton] at h
    rw [h]
    rfl

/-- Only addresses are payable. -/
theorem markPayable_eq (type : Target.ElementaryType) (entry : Option Schema.StateEntry) :
    markPayable type entry = none ∨ markPayable type entry = some .payable ∧ type = .address := by
  unfold markPayable
  split
  · rename_i hpayable
    exact .inr ⟨rfl, hpayable.1⟩
  · exact .inl rfl

/-- Only of an address it matters whether it is payable. -/
theorem markPayable_congr {type : Target.ElementaryType} {entry other : Option Schema.StateEntry}
    (h : type = .address → other.any (·.payable) = entry.any (·.payable)) :
    markPayable type other = markPayable type entry := by
  unfold markPayable
  by_cases htype : type = .address
  · rw [h htype]
  · rw [if_neg fun hpayable => htype hpayable.1, if_neg fun hpayable => htype hpayable.1]

/-- A variable with an initializer, which decides its type and literal. -/
def initializedVariable (schema : Schema) (name : String) (inferred : Inferred) :
    Target.StateVariable :=
  .declare name ⟨inferred.type, markPayable inferred.type (schema.stateVariable? name)⟩
    (some inferred.literal)

/-- The type that the schema's entry gives to a variable. -/
def variableType (schema : Schema) (name : String) : Lowered Target.ElementaryType :=
  resolve (.state name) ((schema.stateVariable? name).map (·.type))

/-- A variable without an initializer. -/
def bareVariable (schema : Schema) (name : String) : Lowered Target.StateVariable :=
  let type := variableType schema name
  ⟨.declare name ⟨type.node, markPayable type.node (schema.stateVariable? name)⟩ none,
    type.warnings⟩

theorem lowerVariable_initialized (name : String) (initializer : Source.Initializer) :
    lowerVariable schema ⟨name, some initializer⟩ =
      (infer (.declarator (some name)) initializer).map fun inferred =>
        ⟨initializedVariable schema name inferred, []⟩ := by
  simp only [lowerVariable]
  cases infer (.declarator (some name)) initializer <;> rfl

theorem lowerVariable_bare (name : String) :
    lowerVariable schema ⟨name, none⟩ = .ok (bareVariable schema name) := rfl

theorem lowerVariable_isSkipped {declared : Source.Variable}
    {lowered : Lowered Target.StateVariable} (h : lowerVariable schema declared = .ok lowered)
    {warning : Warning} (hw : warning ∈ lowered.warnings) : warning.isSkipped = false := by
  obtain ⟨name, _ | initializer⟩ := declared
  · rw [lowerVariable_bare, Except.ok.injEq] at h
    subst h
    exact resolve_isSkipped hw
  · rw [lowerVariable_initialized] at h
    cases hinfer : infer (.declarator (some name)) initializer with
    | error failure => simp [hinfer, Except.map] at h
    | ok inferred =>
      simp only [hinfer, Except.map, Except.ok.injEq] at h
      simp [← h] at hw

/-- What the schema gives to the parameters of a function, in their order. -/
def loweredParameters (schema : Schema) (function : Source.Function) :
    List (Lowered Target.Variable) :=
  function.parameters.map (lowerParameter (schema.definition? function.name) function.name)

/-- What the schema gives to the return slot of a function. -/
def resultType (schema : Schema) (name : String) : Lowered Target.ElementaryType :=
  resolve (.result name) ((schema.definition? name).bind (·.type))

def functionKeywords (schema : Schema) (name : String) : List String :=
  ((schema.definition? name).map (·.keywords)).getD []

/-- A function with its lowered body. -/
def functionOf (schema : Schema) (function : Source.Function) (body : List Target.Statement) :
    Target.Function where
  name := function.name
  parameters := (loweredParameters schema function).map (·.node)
  results := [.slot (.plain (resultType schema function.name).node)]
  body := body
  visibility :=
    ((functionKeywords schema function.name).findSome? Target.Visibility.ofKeyword?).getD
      .publicAccess
  modifiers := []
  overrides := none
  isConstructor := false
  isReceiveEther := false
  isFallback := false
  isVirtual := false
  mutability := (functionKeywords schema function.name).findSome? Target.Mutability.ofKeyword?

/-- The warnings about a function: its parameters in order, then its result. -/
def functionWarnings (schema : Schema) (function : Source.Function) : List Warning :=
  (loweredParameters schema function).flatMap (·.warnings) ++
    (resultType schema function.name).warnings

/-- The schema has no say in whether a function is lowered. -/
theorem lowerFunction_eq_map (function : Source.Function) :
    lowerFunction schema function =
      (lowerBody (.functionDeclaration (some function.name)) function.body).map fun body =>
        ⟨functionOf schema function body, functionWarnings schema function⟩ := by
  simp only [lowerFunction]
  cases lowerBody (.functionDeclaration (some function.name)) function.body <;> rfl

theorem lowerFunction_eq_ok {function : Source.Function} {lowered : Lowered Target.Function} :
    lowerFunction schema function = .ok lowered ↔
      ∃ body, lowerBody (.functionDeclaration (some function.name)) function.body = .ok body ∧
        lowered = ⟨functionOf schema function body, functionWarnings schema function⟩ := by
  rw [lowerFunction_eq_map]
  cases lowerBody (.functionDeclaration (some function.name)) function.body <;>
    simp [Except.map, eq_comm]

theorem functionWarnings_isSkipped {function : Source.Function} {warning : Warning}
    (h : warning ∈ functionWarnings schema function) : warning.isSkipped = false := by
  rcases List.mem_append.mp h with hparameter | hresult
  · obtain ⟨lowered, hlowered, hw⟩ := List.mem_flatMap.mp hparameter
    obtain ⟨name, _, rfl⟩ := List.mem_map.mp hlowered
    exact resolve_isSkipped hw
  · exact resolve_isSkipped hresult

end ContractLowering
