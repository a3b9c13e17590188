import ContractLowering.Target.Type

/-! # Lowered contracts

A lowered contract lists state variables, functions and events. Variables serve as state
variables, parameters and return slots alike; the functions that build them set what each
kind of variable has.
-/

namespace ContractLowering.Target

/-- A literal value; addresses are written as numbers too. -/
inductive Literal where
  | number (numeral : String) (unit : Option String)
  | text (value : String) (parts : List String) (isUnicode : List Bool)
  | boolean (value : Bool)
  deriving DecidableEq

namespace Literal

def ofNumeral (numeral : String) : Literal :=
  number numeral none

/-- A text in one part that is not marked as unicode. -/
def ofText (value : String) : Literal :=
  text value [value] [false]

end Literal

structure Variable where
  typeName : TypeName
  name : Option String
  identifier : Option String
  expression : Option Literal
  visibility : Option Visibility
  isStateVar : Bool
  isDeclaredConst : Bool
  isIndexed : Bool
  isImmutable : Bool
  overrides : Option (List String)
  storageLocation : Option String
  deriving DecidableEq

namespace Variable

/-- A variable without a name, a value or any mark: the return slot of a function. -/
def slot (typeName : TypeName) : Variable where
  typeName := typeName
  name := none
  identifier := none
  expression := none
  visibility := none
  isStateVar := false
  isDeclaredConst := false
  isIndexed := false
  isImmutable := false
  overrides := none
  storageLocation := none

/-- The identifier of a named variable repeats its name. -/
def parameter (name : String) (typeName : TypeName) : Variable :=
  { slot typeName with name := some name, identifier := some name }

/-- State variables are public. -/
def state (name : String) (typeName : TypeName) (expression : Option Literal) : Variable :=
  { parameter name typeName with
    expression := expression, visibility := some .publicAccess, isStateVar := true }

end Variable

structure StateVariable where
  declared : List Variable
  initialValue : Option Literal
  deriving DecidableEq

/-- A declaration of one variable; its literal is the variable's expression and the initial
value of the declaration. -/
def StateVariable.declare (name : String) (typeName : TypeName) (literal : Option Literal) :
    StateVariable :=
  ⟨[.state name typeName literal], literal⟩

/-- A statement returns a binary expression over two identifiers. -/
inductive Statement where
  | returnBinary (operator left right : String)
  deriving DecidableEq

structure Function where
  name : String
  parameters : List Variable
  results : List Variable
  body : List Statement
  visibility : Visibility
  modifiers : List String
  overrides : Option (List String)
  isConstructor : Bool
  isReceiveEther : Bool
  isFallback : Bool
  isVirtual : Bool
  mutability : Option Mutability
  deriving DecidableEq

structure Event where
  name : String
  parameters : List Variable
  isAnonymous : Bool
  deriving DecidableEq

inductive SubNode where
  | state (declaration : StateVariable)
  | function (definition : Function)
  | event (definition : Event)
  deriving DecidableEq

structure Contract where
  name : String
  bases : List String
  subNodes : List SubNode
  kind : String
  deriving DecidableEq

/-- The source has no inheritance, so there are no bases. -/
def Contract.ofSubNodes (name : String) (subNodes : List SubNode) : Contract :=
  ⟨name, [], subNodes, "contract"⟩

end ContractLowering.Target
