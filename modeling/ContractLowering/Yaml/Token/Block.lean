import ContractLowering.Yaml.Placed

/-! # Block scalars

The header of a block scalar says how its last line breaks are kept and may give its
indentation, which otherwise its first line that is not empty sets. A literal scalar keeps
its line breaks; a folded one joins lines that start with no blank.
-/

namespace ContractLowering.Yaml

/-- What becomes of the line breaks at the end. -/
inductive Chomping where
  | strip
  | clip
  | keep
  deriving DecidableEq

def chomping? (c : Char) : Option Chomping :=
  if c = '-' then some .strip else if c = '+' then some .keep else none

structure BlockHeader where
  chomping : Chomping
  /-- How much deeper than its parent the scalar is indented. -/
  increment : Option Nat
  rest : Input

/-- The indentation indicator, if there is one; it is not zero. -/
def readIncrement (input : Input) : Option (Option Nat × Input) :=
  match (input.peek 0).bind digit? with
  | none => some (none, input)
  | some 0 => none
  | some n => some (some n, input.skip 1)

def readChomping (input : Input) : Option Chomping × Input :=
  match (input.peek 0).bind chomping? with
  | none => (none, input)
  | some chomping => (some chomping, input.skip 1)

/-- The two indicators, in either order, and the end of the line. -/
def readBlockHeader (input : Input) : Option BlockHeader := do
  let (first, input) := readChomping input
  let (increment, input) ← readIncrement input
  let (second, input) :=
    if first.isNone ∧ increment.isSome then readChomping input else (none, input)
  return ⟨(first.or second).getD .clip, increment, ← input.afterLine?⟩

/-- A block scalar in the course of reading; all texts are in reverse order. -/
structure BlockScalar where
  folds : Bool
  chars : List Char
  /-- The line break that ended the last line of text. -/
  lineBreak : Option Char
  /-- The breaks of empty lines after it. -/
  emptyLines : List Char
  /-- Whether the last line of text started with a blank. -/
  startedBlank : Bool

namespace BlockScalar

/-- Join the next line, which starts with this character, to the text so far. -/
def startLine (scalar : BlockScalar) (c : Char) : BlockScalar :=
  let joins := scalar.folds ∧ scalar.lineBreak = some '\n' ∧ !scalar.startedBlank ∧ !isBlank c
  let between :=
    if joins then (if scalar.emptyLines.isEmpty then [' '] else [])
    else scalar.lineBreak.toList
  { scalar with
    chars := scalar.emptyLines ++ between ++ scalar.chars
    lineBreak := none
    emptyLines := []
    startedBlank := isBlank c }

def finish (scalar : BlockScalar) (chomping : Chomping) : String :=
  let ending := match chomping with
    | .strip => []
    | .clip => scalar.lineBreak.toList
    | .keep => scalar.emptyLines ++ scalar.lineBreak.toList
  String.ofList (ending ++ scalar.chars).reverse

end BlockScalar

/-- Whether the reader is inside a line of text, or in front of one. In front of the first
line the indentation may still be unknown; then the deepest one seen is remembered. -/
inductive BlockState where
  | inside (indent : Int)
  | before (indent : Int)
  | search (deepest : Nat)

/-- The lines of a block scalar up to the first character that is indented less. Indentation
is by spaces, so a tab in it is refused. -/
def readLines (parent : Int) (state : BlockState) (scalar : BlockScalar) :
    Input → Option (BlockScalar × Input)
  | [] => some (scalar, [])
  | c :: rest =>
    let line (indent : Int) : Option (BlockScalar × Input) :=
      if (c.column : Int) = indent then
        let scalar := scalar.startLine c.char
        readLines parent (.inside indent) { scalar with chars := c.char :: scalar.chars } rest
      else
        some (scalar, c :: rest)
    let addEmpty := { scalar with emptyLines := c.char :: scalar.emptyLines }
    match state with
    | .inside indent =>
      if isBreak c.char then
        readLines parent (.before indent) { scalar with lineBreak := some c.char } rest
      else
        readLines parent (.inside indent) { scalar with chars := c.char :: scalar.chars } rest
    | .before indent =>
      if isBreak c.char then
        readLines parent (.before indent) addEmpty rest
      else if (c.column : Int) < indent ∧ c.char = ' ' then
        readLines parent (.before indent) scalar rest
      else if (c.column : Int) < indent ∧ c.char = '\t' then
        none
      else
        line indent
    | .search deepest =>
      if c.char = ' ' then
        readLines parent (.search deepest) scalar rest
      else if c.char = '\t' then
        none
      else
        let deepest := max deepest c.column
        if isBreak c.char then
          readLines parent (.search deepest) addEmpty rest
        else
          line (max deepest (max (parent + 1) 1))

/-- A block scalar, read after its indicator, in a block indented by `parent`. -/
def readBlock (folds : Bool) (parent : Int) (input : Input) : Option (String × Input) := do
  let header ← readBlockHeader input
  let state : BlockState := match header.increment with
    | some n => .before (max parent 0 + n)
    | none => .search 0
  let (scalar, rest) ← readLines parent state ⟨folds, [], none, [], false⟩ header.rest
  return (scalar.finish header.chomping, rest)

end ContractLowering.Yaml
