/-! # Schemas

A schema gives the types of state variables, the signatures of functions and the events of a
contract. Names are looked up from the front, so of several entries of one name the first
counts. Events keep the order of the document.
-/

namespace ContractLowering

namespace Schema

structure StateEntry where
  name : String
  type : String
  payable : Bool
  deriving DecidableEq

structure TypedName where
  name : String
  type : String
  deriving DecidableEq

structure LocalEntry where
  name : String
  type : String
  inMemory : Bool
  deriving DecidableEq

/-- The signature of a function. Its keywords mix visibility and mutability; its type is the
type of the result. -/
structure Definition where
  name : String
  keywords : List String
  type : Option String
  parameters : List TypedName
  locals : List LocalEntry
  deriving DecidableEq

def Definition.parameter? (definition : Definition) (name : String) : Option TypedName :=
  definition.parameters.find? fun parameter => parameter.name = name

end Schema

structure Schema where
  state : List Schema.StateEntry
  definitions : List Schema.Definition
  events : List (String × List Schema.TypedName)
  deriving DecidableEq

namespace Schema

def empty : Schema := ⟨[], [], []⟩

def stateVariable? (schema : Schema) (name : String) : Option StateEntry :=
  schema.state.find? fun entry => entry.name = name

def definition? (schema : Schema) (name : String) : Option Definition :=
  schema.definitions.find? fun definition => definition.name = name

end Schema

end ContractLowering
