import ContractLowering.Yaml.Node

/-! # Trees

A tree is a document with its references followed, as far as an outline says that somebody
looks at it. References may multiply a document, and form cycles where nobody looks, so how
many of them are followed is bounded by the size of the document.
-/

namespace ContractLowering.Yaml

inductive Tree where
  | scalar (value : Scalar)
  | sequence (items : List Tree)
  | mapping (entries : List (Tree × Tree))
  /-- What nobody looks at. -/
  | unread

/-- What is looked at, and as what. -/
inductive Outline where
  | text
  | list (item : Outline)
  /-- A mapping whose values are alike. -/
  | table (value : Outline)
  /-- A mapping of which these keys are known. -/
  | record (fields : List (String × Outline))

/-- A reading that takes from the number of references that may still be followed. -/
abbrev Follow := StateT Nat Option

namespace Tree

/-- A node without its anchor, or the one that it refers to; the last one of a number comes
first among the anchors. -/
def target (anchors : List (Nat × Node)) : Node → Follow Node
  | .anchored _ node => return node
  | .reference number => do
    match ← get with
    | 0 => failure
    | allowed + 1 =>
      set allowed
      anchors.lookup number
  | node => return node

def ofText (anchors : List (Nat × Node)) (node : Node) : Follow Tree := do
  match ← target anchors node with
  | .scalar value => return scalar value
  | _ => return unread

mutual

/-- The tree of a node. A scalar may stand for any collection, which its reader decides. -/
def ofNode (anchors : List (Nat × Node)) : Outline → Node → Follow Tree
  | .text, node => ofText anchors node
  | .list item, node => do
    match ← target anchors node with
    | .scalar value => return scalar value
    | .sequence items => return sequence (← items.mapM (ofNode anchors item))
    | _ => return unread
  | .table outline, node => do
    match ← target anchors node with
    | .scalar value => return scalar value
    | .mapping entries =>
      return mapping (← entries.mapM fun (key, value) => do
        return (← ofText anchors key, ← ofNode anchors outline value))
    | _ => return unread
  | .record fields, node => do
    match ← target anchors node with
    | .scalar value => return scalar value
    | .mapping entries =>
      return mapping (← entries.mapM fun (key, value) => do
        let key ← ofText anchors key
        return (key, ← ofField anchors fields key value))
    | _ => return unread

/-- The tree of a value under a key. -/
def ofField (anchors : List (Nat × Node)) : List (String × Outline) → Tree → Node → Follow Tree
  | [], _, _ => return unread
  | (name, outline) :: fields, scalar key, node =>
    if key.text = name then ofNode anchors outline node
    else ofField anchors fields (scalar key) node
  | _ :: _, _, _ => return unread

end

/-- How often a reference may be followed for each part of a document. -/
def maxRepetition : Nat := 100

/-- The tree of a document, if its references do not multiply it too often. -/
def ofDocument? (outline : Outline) (root : Node) : Option Tree :=
  ((ofNode root.anchors.reverse outline root).run (maxRepetition * root.size)).map Prod.fst

end Tree

end ContractLowering.Yaml
