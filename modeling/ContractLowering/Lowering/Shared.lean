import ContractLowering.Lowering.Function

/-! # Lowering with a shared list of warnings

Calls that lower variables and functions can share one list of warnings. A variable is warned about
in that list at once; the slots that a function misses are kept apart until its body is lowered.
What a call has added stays in the list, also if the call fails then.
-/

namespace ContractLowering

/-- A lowering that adds to a list of warnings, which outlives its failure. -/
abbrev Warns := ExceptT Failure (StateM (List Warning))

/-- The type that the schema supplies for a slot; without one a warning is added. -/
def supplyType (slot : TypeSlot) : Option String → StateM (List Warning) Target.ElementaryType
  | some type => return .ofSchema type
  | none => do
    modify (· ++ [.unresolved slot])
    return .unresolved

def warnVariable (schema : Schema) (declared : Source.Variable) : Warns Target.StateVariable := do
  let name := declared.name
  let entry := schema.stateVariable? name
  let (type, literal) ← match declared.initializer with
    | some initializer => do
      let inferred ← MonadExcept.ofExcept (infer (.declarator (some name)) initializer)
      pure (inferred.type, some inferred.literal)
    | none => do
      let type ← supplyType (.state name) (entry.map (·.type))
      pure (type, none)
  return .declare name ⟨type, markPayable type entry⟩ literal

def warnParameter (definition : Option Schema.Definition) (function name : String) :
    StateM (List Warning) Target.Variable := do
  let type ← supplyType (.parameter function name)
    ((definition.bind (·.parameter? name)).map (·.type))
  return .parameter name (.plain type)

/-- The parameters of a function and the type of its result. -/
def warnSignature (definition : Option Schema.Definition) (function : Source.Function) :
    StateM (List Warning) (List Target.Variable × Target.ElementaryType) := do
  let parameters ← function.parameters.mapM (warnParameter definition function.name)
  let result ← supplyType (.result function.name) (definition.bind (·.type))
  return (parameters, result)

def warnFunction (schema : Schema) (function : Source.Function) : Warns Target.Function := do
  let name := function.name
  let definition := schema.definition? name
  let ((parameters, result), missing) := (warnSignature definition function).run []
  let keywords := (definition.map (·.keywords)).getD []
  let body ← MonadExcept.ofExcept (lowerBody (.functionDeclaration (some name)) function.body)
  modify (· ++ missing)
  return {
    name := name
    parameters := parameters
    results := [.slot (.plain result)]
    body := body
    visibility := (keywords.findSome? Target.Visibility.ofKeyword?).getD .publicAccess
    modifiers := []
    overrides := none
    isConstructor := false
    isReceiveEther := false
    isFallback := false
    isVirtual := false
    mutability := keywords.findSome? Target.Mutability.ofKeyword? }

/-- A call that lowers a variable or a function under a schema of its own. -/
inductive Call where
  | variable (schema : Schema) (declared : Source.Variable)
  | function (schema : Schema) (declared : Source.Function)

namespace Call

def perform : Call → StateM (List Warning) (Except Failure Target.SubNode)
  | .variable schema declared => (Target.SubNode.state <$> warnVariable schema declared).run
  | .function schema declared => (Target.SubNode.function <$> warnFunction schema declared).run

/-- Calls one after another; one that fails does not stop those behind it. -/
def performAll (calls : List Call) : StateM (List Warning) (List (Except Failure Target.SubNode)) :=
  calls.mapM perform

end Call

end ContractLowering
