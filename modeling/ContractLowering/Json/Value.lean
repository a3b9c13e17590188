import ContractLowering.Json.Number

/-! # Document values

The members of an object read from a document are sorted by name and unique; those of an
object built for output keep the order in which they are written.
-/

namespace ContractLowering

inductive Json where
  | null
  | boolean (value : Bool)
  | number (value : Number)
  | text (value : String)
  | array (items : List Json)
  | object (members : List (String × Json))

/-- What kind of value it is; the name under which diagnostics speak of it. -/
inductive Shape where
  | null
  | boolean
  | number
  | text
  | array
  | object
  deriving DecidableEq

def Json.shape : Json → Shape
  | null => .null
  | boolean _ => .boolean
  | number _ => .number
  | text _ => .text
  | array _ => .array
  | object _ => .object

def Shape.name : Shape → String
  | null => "null"
  | boolean => "boolean"
  | number => "number"
  | text => "string"
  | array => "sequence"
  | object => "node"

abbrev Members := List (String × Json)

namespace Members

/-- The value of the first member of this name. -/
def get? (members : Members) (name : String) : Option Json :=
  (members.find? fun member => member.1 = name).map Prod.snd

/-- Put a member in its place by name; of two members of one name the later stays. -/
def insert (name : String) (value : Json) : Members → Members
  | [] => [(name, value)]
  | member :: members =>
    if name < member.1 then
      (name, value) :: member :: members
    else if name = member.1 then
      (name, value) :: members
    else
      member :: insert name value members

theorem get?_insert (name other : String) (value : Json) (members : Members) :
    (insert name value members).get? other =
      if name = other then some value else members.get? other := by
  induction members with
  | nil => by_cases h : name = other <;> simp [insert, get?, h]
  | cons member members ih =>
    simp only [insert]
    split
    · by_cases h : name = other <;> simp [get?, h]
    · split
      · rename_i h
        by_cases h' : name = other
        · simp [get?, h']
        · simp [get?, h', ← h]
      · rename_i h
        by_cases h' : member.1 = other
        · have : ¬ name = other := fun e => h (e.trans h'.symm)
          simp [get?, h', this]
        · have := ih
          simp only [get?] at this ⊢
          simp only [List.find?_cons, h', decide_false, this]

end Members

end ContractLowering
