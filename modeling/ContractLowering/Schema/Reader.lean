import ContractLowering.Schema.Basic
import ContractLowering.Text.WhiteSpace
import ContractLowering.Yaml.Document
import ContractLowering.Yaml.Tree

/-! # Reading schemas

A record is a mapping with known keys, each of which occurs at most once; entries under other
keys are passed over. Nothing, written as nothing, is an empty list and an empty mapping.
-/

namespace ContractLowering

namespace Yaml.Tree

/-- Whether nothing is written here. -/
def isNothing : Tree → Bool
  | scalar value => value.text.isEmpty && value.style = .plain
  | _ => false

/-- The text of a scalar, however it is written. -/
def text? : Tree → Option String
  | scalar value => some value.text
  | _ => none

def isNullWord (text : String) : Bool :=
  text = "null" ∨ text = "Null" ∨ text = "NULL" ∨ text = "~"

/-- A text that may be missing: a plain scalar that says so is none. A scalar tagged as null
has to say so. -/
def optionalText? : Tree → Option (Option String)
  | scalar value =>
    let isNull := isNullWord value.text
    if value.style ≠ .plain then
      some (some value.text)
    else if value.tag = some "tag:yaml.org,2002:null" then
      if isNull then some none else none
    else if value.tag = none ∧ (isNull ∨ value.text.isEmpty) then
      some none
    else
      some (some value.text)
  | _ => none

def isBoolean (style : Yaml.Style) (tag : Option String) : Bool :=
  style = .plain ∨ (style = .literal ∧ tag = some "tag:yaml.org,2002:bool")

def bool? : Tree → Option Bool
  | scalar value =>
    if isBoolean value.style value.tag then
      if value.text = "true" ∨ value.text = "True" ∨ value.text = "TRUE" then some true
      else if value.text = "false" ∨ value.text = "False" ∨ value.text = "FALSE" then some false
      else none
    else
      none
  | _ => none

/-- The items of a list. -/
def items? : Tree → Option (List Tree)
  | sequence items => some items
  | tree => if tree.isNothing then some [] else none

/-- The entries of a mapping, whose keys have to be scalars. -/
def entries? : Tree → Option (List (String × Tree))
  | mapping entries => entries.mapM fun (key, value) => do return (← key.text?, value)
  | tree => if tree.isNothing then some [] else none

def listOf {α : Type} (read : Tree → Option α) (tree : Tree) : Option (List α) := do
  (← tree.items?).mapM read

end Yaml.Tree

namespace Schema

open Yaml (Tree)

abbrev Record := List (String × Tree)

namespace Record

/-- The value under a known key, if there is one; the key cannot be repeated. -/
def get? (record : Record) (key : String) : Option (Option Tree) :=
  match record.filter fun entry => entry.1 = key with
  | [] => some none
  | [entry] => some (some entry.2)
  | _ => none

def required {α : Type} (record : Record) (key : String) (read : Tree → Option α) : Option α := do
  read (← ← record.get? key)

def optional {α : Type} (record : Record) (key : String) (read : Tree → Option α) (default : α) :
    Option α := do
  match ← record.get? key with
  | some tree => read tree
  | none => return default

end Record

def StateEntry.read (tree : Tree) : Option StateEntry := do
  let record : Record ← tree.entries?
  return {
    name := ← record.required "name" Tree.text?
    type := ← record.required "type" Tree.text?
    payable := ← record.optional "payable" Tree.bool? false }

def TypedName.read (tree : Tree) : Option TypedName := do
  let record : Record ← tree.entries?
  return {
    name := ← record.required "name" Tree.text?
    type := ← record.required "type" Tree.text? }

def LocalEntry.read (tree : Tree) : Option LocalEntry := do
  let record : Record ← tree.entries?
  return {
    name := ← record.required "name" Tree.text?
    type := ← record.required "type" Tree.text?
    inMemory := ← record.optional "inMemory" Tree.bool? false }

def Definition.read (tree : Tree) : Option Definition := do
  let record : Record ← tree.entries?
  return {
    name := ← record.required "name" Tree.text?
    keywords := ← record.optional "visibility" (Tree.listOf Tree.text?) []
    type := ← record.optional "type" Tree.optionalText? none
    parameters := ← record.optional "parameters" (Tree.listOf TypedName.read) []
    locals := ← record.optional "locals" (Tree.listOf LocalEntry.read) [] }

/-- Give an event its parameters; it keeps the place where it was first. -/
def setEvent (name : String) (parameters : List TypedName) :
    List (String × List TypedName) → List (String × List TypedName)
  | [] => [(name, parameters)]
  | event :: events =>
    if event.1 = name then (name, parameters) :: events
    else event :: setEvent name parameters events

def readEvents (tree : Tree) : Option (List (String × List TypedName)) := do
  let events ← (← tree.entries?).mapM fun (name, value) => do
    return (name, ← Tree.listOf TypedName.read value)
  return events.foldl (fun known event => setEvent event.1 event.2 known) []

def ofTree? (tree : Tree) : Option Schema := do
  let record : Record ← tree.entries?
  return {
    state := ← record.optional "state" (Tree.listOf StateEntry.read) []
    definitions := ← record.optional "defs" (Tree.listOf Definition.read) []
    events := ← record.optional "events" readEvents [] }

/-- What is looked at in the document of a schema. -/
def outline : Yaml.Outline :=
  let named : List (String × Yaml.Outline) := [("name", .text), ("type", .text)]
  .record
    [("state", .list (.record (named ++ [("payable", .text)]))),
      ("defs", .list (.record (named ++
        [("visibility", .list .text), ("parameters", .list (.record named)),
          ("locals", .list (.record (named ++ [("inMemory", .text)])))]))),
      ("events", .table (.list (.record named)))]

/-- The wording of a schema that cannot be read. -/
def readMessage : String :=
  "Failed to parse schema document"

/-- The schema that a text holds; a blank text holds an empty one. -/
def parse? (source : String) : Option Schema :=
  if source.toList.all isWhiteSpace then
    some empty
  else do
    ofTree? (← Tree.ofDocument? outline (← Yaml.Node.parse? source))

end Schema

end ContractLowering
