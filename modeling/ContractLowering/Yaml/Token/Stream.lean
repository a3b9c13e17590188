import ContractLowering.Yaml.Token.Block
import ContractLowering.Yaml.Token.Name
import ContractLowering.Yaml.Token.Plain
import ContractLowering.Yaml.Token.Quoted

/-! # Token streams

Block structure follows the columns: a deeper column opens a block and a lesser one closes
it. What starts a mapping key is known only at the value indicator, so a token that may start
one is remembered, and the key is put in front of it later. Keys are short and end on their
line.
-/

namespace ContractLowering.Yaml

/-- A token that may start a mapping key. -/
structure KeyCandidate where
  /-- Whether it stands where a block mapping has to go on with a key. -/
  required : Bool
  /-- The number of tokens in front of it. -/
  position : Nat
  place : Placed
  deriving DecidableEq

/-- The greatest length of a key, in octets. -/
def maxKeyLength : Nat := 1024

/-- Whether a value indicator at this place is too far away. -/
def KeyCandidate.isStale (candidate : KeyCandidate) (here : Placed) : Bool :=
  candidate.place.line < here.line ∨ candidate.place.index + maxKeyLength < here.index

structure Layout where
  /-- The tokens so far, in reverse order, and their number. -/
  tokens : List Token
  size : Nat
  /-- The candidate inside the innermost flow collection, or outside of all. -/
  candidate : Option KeyCandidate
  /-- The candidates around each open flow collection. -/
  outer : List (Option KeyCandidate)
  /-- The columns of the open blocks, the innermost first. -/
  columns : List Nat
  /-- Whether a key may start here. -/
  keyAllowed : Bool

namespace Layout

def start : Layout := ⟨[], 0, none, [], [], true⟩

def inFlow (layout : Layout) : Bool :=
  !layout.outer.isEmpty

/-- The column of the innermost block; outside of all blocks it is in front of the first. -/
def indent (layout : Layout) : Int :=
  match layout.columns with
  | [] => -1
  | column :: _ => column

def push (layout : Layout) (token : Token) : Layout :=
  { layout with tokens := token :: layout.tokens, size := layout.size + 1 }

/-- Put tokens, given in reverse order, behind the first `position` ones. -/
def insert (layout : Layout) (position : Nat) (tokens : List Token) : Layout :=
  let later := layout.size - position
  { layout with
    tokens := layout.tokens.take later ++ tokens ++ layout.tokens.drop later
    size := layout.size + tokens.length }

def allowKey (layout : Layout) (allowed : Bool) : Layout :=
  { layout with keyAllowed := allowed }

/-- Give the candidate up; a required one cannot be. -/
def dropCandidate (layout : Layout) : Option Layout :=
  if layout.candidate.any (·.required) then none else some { layout with candidate := none }

/-- Give up all candidates that are too far away. -/
def dropStale (layout : Layout) (here : Placed) : Option Layout :=
  let isStale (candidate : Option KeyCandidate) : Bool := candidate.any (·.isStale here)
  let fresh (candidate : Option KeyCandidate) := if isStale candidate then none else candidate
  if (layout.candidate :: layout.outer).any fun c => isStale c && c.any (·.required) then
    none
  else
    some { layout with candidate := fresh layout.candidate, outer := layout.outer.map fresh }

/-- The next token may start a key. -/
def addCandidate (layout : Layout) (here : Placed) : Option Layout :=
  if layout.keyAllowed then do
    let layout ← layout.dropCandidate
    let required := !layout.inFlow && layout.indent = (here.column : Int)
    return { layout with candidate := some ⟨required, layout.size, here⟩ }
  else
    some layout

/-- Whether a block opens at a column; none does inside a flow collection. -/
def opensBlock (layout : Layout) (column : Nat) : Bool :=
  !layout.inFlow && layout.indent < (column : Int)

def openBlock (layout : Layout) (column : Nat) (token : Token) : Layout :=
  if layout.opensBlock column then
    { layout.push token with columns := column :: layout.columns }
  else
    layout

/-- Close the blocks that are indented deeper than a column. -/
def closeBlocks (layout : Layout) (column : Int) : Layout :=
  if layout.inFlow then
    layout
  else
    let isDeeper (open_ : Nat) : Bool := column < (open_ : Int)
    let closed := layout.columns.takeWhile isDeeper
    { layout with
      tokens := List.replicate closed.length .blockEnd ++ layout.tokens
      size := layout.size + closed.length
      columns := layout.columns.dropWhile isDeeper }

def openFlow (layout : Layout) (here : Placed) (token : Token) : Option Layout := do
  let layout ← layout.addCandidate here
  let layout := { layout with candidate := none, outer := layout.candidate :: layout.outer }
  return (layout.allowKey true).push token

def closeFlow (layout : Layout) (token : Token) : Option Layout := do
  let layout ← layout.dropCandidate
  let layout := match layout.outer with
    | [] => layout
    | candidate :: outer => { layout with candidate := candidate, outer := outer }
  return (layout.allowKey false).push token

def flowEntry (layout : Layout) : Option Layout := do
  return ((← layout.dropCandidate).allowKey true).push .flowEntry

/-- An entry of a block sequence. Inside a flow collection the token is left to be refused by
the reader of nodes. -/
def blockEntry (layout : Layout) (here : Placed) : Option Layout :=
  if layout.inFlow ∨ layout.keyAllowed then do
    let layout := layout.openBlock here.column .blockSequenceStart
    return ((← layout.dropCandidate).allowKey true).push .blockEntry
  else
    none

/-- A key indicator. -/
def key (layout : Layout) (here : Placed) : Option Layout :=
  if layout.inFlow ∨ layout.keyAllowed then do
    let layout := layout.openBlock here.column .blockMappingStart
    return ((← layout.dropCandidate).allowKey (!layout.inFlow)).push .key
  else
    none

/-- A value indicator. With a candidate it makes a key of it, in front of which a block
mapping may open; without one it follows a key indicator. -/
def value (layout : Layout) (here : Placed) : Option Layout :=
  match layout.candidate with
  | some candidate =>
    let column := candidate.place.column
    let layout :=
      if layout.opensBlock column then
        { layout.insert candidate.position [.key, .blockMappingStart] with
          columns := column :: layout.columns }
      else
        layout.insert candidate.position [.key]
    some (({ layout with candidate := none }.allowKey false).push .value)
  | none =>
    if layout.inFlow ∨ layout.keyAllowed then
      let layout := layout.openBlock here.column .blockMappingStart
      some ((layout.allowKey (!layout.inFlow)).push .value)
    else
      none

/-- A document mark or a directive closes all blocks. -/
def outermost (layout : Layout) (token : Token) : Option Layout := do
  return ((← (layout.closeBlocks (-1)).dropCandidate).allowKey false).push token

/-- A token that may start a key. -/
def content (layout : Layout) (here : Placed) (token : Token) : Option Layout := do
  return ((← layout.addCandidate here).allowKey false).push token

/-- The token in front. -/
def read (layout : Layout) (here : Placed) (rest : Input) : Option (Layout × Input) := do
  let input : Input := here :: rest
  let c := here.char
  let isIndicator := layout.inFlow || rest.endsWord 0
  if here.column = 0 ∧ c = '%' then
    let (token, rest) ← readDirective rest
    return (← layout.outermost token, rest)
  else if input.marksDocument '-' then
    return (← layout.outermost .documentStart, input.skip 3)
  else if input.marksDocument '.' then
    return (← layout.outermost .documentEnd, input.skip 3)
  else if c = '[' then
    return (← layout.openFlow here .flowSequenceStart, rest)
  else if c = '\x7b' then
    return (← layout.openFlow here .flowMappingStart, rest)
  else if c = ']' then
    return (← layout.closeFlow .flowSequenceEnd, rest)
  else if c = '\x7d' then
    return (← layout.closeFlow .flowMappingEnd, rest)
  else if c = ',' then
    return (← layout.flowEntry, rest)
  else if c = '-' ∧ rest.endsWord 0 then
    return (← layout.blockEntry here, rest)
  else if c = '?' ∧ isIndicator then
    return (← layout.key here, rest)
  else if c = ':' ∧ isIndicator then
    return (← layout.value here, rest)
  else if c = '*' then
    let (name, rest) ← readAnchorName rest
    return (← layout.content here (.reference name), rest)
  else if c = '&' then
    let (name, rest) ← readAnchorName rest
    return (← layout.content here (.anchor name), rest)
  else if c = '!' then
    let (tag, rest) ← readTag layout.inFlow input
    return (← layout.content here (.tag tag), rest)
  else if (c = '|' ∨ c = '>') ∧ !layout.inFlow then
    let (text, rest) ← readBlock (c = '>') layout.indent rest
    let layout := (← layout.dropCandidate).allowKey true
    return (layout.push (.scalar text (if c = '>' then .folded else .literal)), rest)
  else if c = '\'' ∨ c = '"' then
    let (text, rest) ← readQuoted c rest
    let style : Style := if c = '"' then .doubleQuoted else .singleQuoted
    return (← layout.content here (.scalar text style), rest)
  else if startsPlain layout.inFlow input then
    let scalar ← readPlain layout.inFlow (layout.indent + 1) input
    let layout ← layout.content here (.scalar scalar.text .plain)
    return (layout.allowKey scalar.endsLine, scalar.rest)
  else
    none

end Layout

/-- After blanks, comments and line breaks. A line break lets a key start, outside of flow
collections; a tab in front of a key is no blank. A byte order mark at the start of a line is
passed over. -/
def skipBlanks (inFlow keyAllowed inComment : Bool) : Input → Bool × Input
  | [] => (keyAllowed, [])
  | c :: rest =>
    if isBreak c.char then
      skipBlanks inFlow (keyAllowed || !inFlow) false rest
    else if inComment then
      skipBlanks inFlow keyAllowed true rest
    else if c.char = '#' then
      skipBlanks inFlow keyAllowed true rest
    else if c.char = ' ' ∨ (c.char = '\t' ∧ (inFlow ∨ !keyAllowed)) ∨
        (c.char = '\ufeff' ∧ c.column = 0) then
      skipBlanks inFlow keyAllowed false rest
    else
      (keyAllowed, c :: rest)

/-- All tokens; `fuel` bounds the number of characters. -/
def Layout.readAllWithin : Nat → Layout → Input → Option (List Token)
  | 0, _, _ => none
  | fuel + 1, layout, input =>
    let (keyAllowed, input) := skipBlanks layout.inFlow layout.keyAllowed false input
    match input with
    | [] => (layout.closeBlocks (-1)).dropCandidate.map fun layout => layout.tokens.reverse
    | here :: rest => do
      let layout ← (layout.allowKey keyAllowed).dropStale here
      let (layout, rest) ← (layout.closeBlocks here.column).read here rest
      layout.readAllWithin fuel rest

/-- The tokens of a text. -/
def Token.readAll (cs : List Char) : Option (List Token) := do
  let input ← place? cs
  Layout.start.readAllWithin (input.length + 1) input

end ContractLowering.Yaml
