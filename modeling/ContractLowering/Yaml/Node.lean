import ContractLowering.Yaml.Token

/-! # Nodes of a YAML document

Anchors are numbered. An anchor gets the number of distinct anchor names in front of it, and
a reference gets the number that its name has there. When several nodes get one number, the
last of them is meant by every reference to it.
-/

namespace ContractLowering.Yaml

structure Scalar where
  text : String
  style : Style
  /-- The tag, which a scalar that is not tagged has none of. -/
  tag : Option String
  deriving DecidableEq

inductive Node where
  | scalar (value : Scalar)
  | sequence (items : List Node)
  | mapping (entries : List (Node × Node))
  | anchored (number : Nat) (node : Node)
  | reference (number : Nat)

namespace Node

/-- What stands where nothing is written. -/
def empty : Node := scalar ⟨"", .plain, none⟩

mutual

/-- The anchored nodes with their numbers, outer ones before inner ones. -/
def anchors : Node → List (Nat × Node)
  | scalar _ => []
  | sequence items => anchorsOfAll items
  | mapping entries => anchorsOfEntries entries
  | anchored number node => (number, node) :: node.anchors
  | reference _ => []

def anchorsOfAll : List Node → List (Nat × Node)
  | [] => []
  | item :: items => item.anchors ++ anchorsOfAll items

def anchorsOfEntries : List (Node × Node) → List (Nat × Node)
  | [] => []
  | (key, value) :: entries => key.anchors ++ value.anchors ++ anchorsOfEntries entries

end

mutual

/-- The number of parts: scalars, references, and both ends of collections. -/
def size : Node → Nat
  | scalar _ => 1
  | sequence items => 2 + sizeOfAll items
  | mapping entries => 2 + sizeOfEntries entries
  | anchored _ node => node.size
  | reference _ => 1

def sizeOfAll : List Node → Nat
  | [] => 0
  | item :: items => item.size + sizeOfAll items

def sizeOfEntries : List (Node × Node) → Nat
  | [] => 0
  | (key, value) :: entries => key.size + value.size + sizeOfEntries entries

end

end Node

end ContractLowering.Yaml
