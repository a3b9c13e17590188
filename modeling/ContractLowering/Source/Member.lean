import ContractLowering.Diagnostic.Failure

/-! # Reading members of nodes

Each reader takes the location that its failure is reported at.
-/

namespace ContractLowering

def malformed {α : Type} (location : Location) (defect : Defect) : Except Failure α :=
  .error (.malformed location defect)

def unsupported {α : Type} (location : Location) (construct : Construct) : Except Failure α :=
  .error (.unsupported location construct)

/-- The members of a value that has to be a node. -/
def Json.node (location : Location) : Json → Except Failure Members
  | object members => .ok members
  | value => malformed location (.notNode value.shape)

namespace Members

def required (location : Location) (members : Members) (name : String) : Except Failure Json :=
  match members.get? name with
  | some value => .ok value
  | none => malformed location (.missing name)

def text (location : Location) (members : Members) (name : String) : Except Failure String := do
  match ← members.required location name with
  | .text value => .ok value
  | value => malformed location (.memberNotText name value.shape)

def node (location : Location) (members : Members) (name : String) : Except Failure Members := do
  match ← members.required location name with
  | .object inner => .ok inner
  | value => malformed location (.memberNotNode name value.shape)

def sequence (location : Location) (members : Members) (name : String) :
    Except Failure (List Json) := do
  match ← members.required location name with
  | .array items => .ok items
  | value => malformed location (.memberNotSequence name value.shape)

/-- The kind of a node, which its `type` names. -/
def kind (location : Location) (members : Members) : Except Failure String :=
  members.text location "type"

/-- The `type` of a node, if it has one that is a text. -/
def kind? (members : Members) : Option String :=
  match members.get? "type" with
  | some (.text kind) => some kind
  | _ => none

end Members

end ContractLowering
