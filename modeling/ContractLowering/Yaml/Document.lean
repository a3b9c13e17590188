import ContractLowering.Yaml.Node
import ContractLowering.Yaml.Token.Stream

/-! # Documents

A stream holds at most one document, which may be marked and have directives. Its tokens are
read by descent; a node that may be left out is empty where the next token cannot start one.
-/

namespace ContractLowering.Yaml

/-- What is left to read, with the numbers of the anchor names and the tag handles so far. -/
structure Reader where
  tokens : List Token
  names : List (String × Nat)
  handles : List (String × String)

abbrev Read := StateT Reader Option

namespace Read

def peek : Read (Option Token) := do
  return (← get).tokens.head?

def skip : Read Unit :=
  modify fun reader => { reader with tokens := reader.tokens.drop 1 }

/-- Whether the next token is one of these. -/
def sees (tokens : List Token) : Read Bool := do
  return (← peek).any tokens.contains

def expect (token : Token) : Read Unit := do
  if ← sees [token] then skip else failure

/-- The number of a new anchor. -/
def anchor (name : String) : Read Nat := do
  let reader ← get
  let others := reader.names.filter fun entry => entry.1 ≠ name
  let number := reader.names.length
  set { reader with names := (name, number) :: others }
  return number

def reference (name : String) : Read Nat := do
  match (← get).names.lookup name with
  | some number => return number
  | none => failure

/-- The tag that a handle and a suffix stand for. -/
def resolveTag (tag : RawTag) : Read String := do
  if tag.handle.isEmpty then
    return tag.suffix
  else
    match (← get).handles.lookup tag.handle with
    | some stem => return stem ++ tag.suffix
    | none => failure

def anchor? : Read (Option Nat) := do
  match ← peek with
  | some (.anchor name) =>
    skip
    return some (← anchor name)
  | _ => return none

def tag? : Read (Option String) := do
  match ← peek with
  | some (.tag tag) =>
    skip
    return some (← resolveTag tag)
  | _ => return none

/-- The anchor and the tag of a node, in either order. -/
def properties : Read (Option Nat × Option String) := do
  match ← anchor? with
  | some number => return (some number, ← tag?)
  | none =>
    let tag ← tag?
    return (← anchor?, tag)

end Read

/-- Where a node stands: inside a flow collection, in a block, or in a block where a sequence
need not be indented. -/
inductive Position where
  | flow
  | block
  | inline
  deriving DecidableEq

open Read

mutual

/-- A node; `fuel` bounds the number of tokens. -/
def readNode : Nat → Position → Read Node
  | 0, _ => failure
  | fuel + 1, position => do
    match ← peek with
    | some (.reference name) =>
      skip
      return .reference (← reference name)
    | _ =>
      let (anchor, tag) ← properties
      let node ← readContent fuel position (anchor.isSome || tag.isSome) tag
      return match anchor with
        | some number => .anchored number node
        | none => node

/-- A node after its properties. With properties it may be left out. -/
def readContent : Nat → Position → Bool → Option String → Read Node
  | 0, _, _, _ => failure
  | fuel + 1, position, optional, tag => do
    let inBlock := position ≠ .flow
    match ← peek with
    | some (.scalar text style) =>
      skip
      return .scalar ⟨text, style, tag⟩
    | some .flowSequenceStart =>
      skip
      return .sequence (← readFlowItems fuel true)
    | some .flowMappingStart =>
      skip
      return .mapping (← readFlowEntries fuel true)
    | some .blockEntry =>
      if position = .inline then
        return .sequence (← readInlineItems fuel)
      else if optional then
        return .scalar ⟨"", .plain, tag⟩
      else
        failure
    | token =>
      if token = some .blockSequenceStart ∧ inBlock then
        skip
        return .sequence (← readBlockItems fuel)
      else if token = some .blockMappingStart ∧ inBlock then
        skip
        return .mapping (← readBlockEntries fuel)
      else if optional then
        return .scalar ⟨"", .plain, tag⟩
      else
        failure

/-- A node that is left out in front of some tokens. -/
def readOptional : Nat → Position → List Token → Read Node
  | 0, _, _ => failure
  | fuel + 1, position, ends => do
    if ← sees ends then return .empty else readNode fuel position

def readBlockItems : Nat → Read (List Node)
  | 0 => failure
  | fuel + 1 => do
    if ← sees [.blockEntry] then
      skip
      let item ← readOptional fuel .block [.blockEntry, .blockEnd]
      return item :: (← readBlockItems fuel)
    else
      expect .blockEnd
      return []

/-- Items that are not indented; the sequence ends with them. -/
def readInlineItems : Nat → Read (List Node)
  | 0 => failure
  | fuel + 1 => do
    if ← sees [.blockEntry] then
      skip
      let item ← readOptional fuel .block [.blockEntry, .key, .value, .blockEnd]
      return item :: (← readInlineItems fuel)
    else
      return []

def readBlockEntries : Nat → Read (List (Node × Node))
  | 0 => failure
  | fuel + 1 => do
    if ← sees [.key] then
      skip
      let key ← readOptional fuel .inline [.key, .value, .blockEnd]
      let value ← readValue fuel .inline [.key, .value, .blockEnd]
      return (key, value) :: (← readBlockEntries fuel)
    else
      expect .blockEnd
      return []

/-- The value of an entry, which is left out without its indicator. -/
def readValue : Nat → Position → List Token → Read Node
  | 0, _, _ => failure
  | fuel + 1, position, ends => do
    if ← sees [.value] then
      skip
      readOptional fuel position ends
    else
      return .empty

/-- The items of a flow sequence. An entry with a key indicator is a mapping of its own. -/
def readFlowItems : Nat → Bool → Read (List Node)
  | 0, _ => failure
  | fuel + 1, isFirst => do
    if ← sees [.flowSequenceEnd] then
      skip
      return []
    else
      if !isFirst then expect .flowEntry
      if ← sees [.key] then
        skip
        let key ← readLoneKey fuel
        let value ← readValue fuel .flow [.flowEntry, .flowSequenceEnd]
        return .mapping [(key, value)] :: (← readFlowItems fuel false)
      else if ← sees [.flowSequenceEnd] then
        skip
        return []
      else
        let item ← readNode fuel .flow
        return item :: (← readFlowItems fuel false)

/-- The key of an entry of a flow sequence. A key that is left out takes the token that shows
it with it. -/
def readLoneKey : Nat → Read Node
  | 0 => failure
  | fuel + 1 => do
    if ← sees [.value, .flowEntry, .flowSequenceEnd] then
      skip
      return .empty
    else
      readNode fuel .flow

/-- The entries of a flow mapping. Without a key indicator an entry has no value. -/
def readFlowEntries : Nat → Bool → Read (List (Node × Node))
  | 0, _ => failure
  | fuel + 1, isFirst => do
    if ← sees [.flowMappingEnd] then
      skip
      return []
    else
      if !isFirst then expect .flowEntry
      if ← sees [.key] then
        skip
        let key ← readOptional fuel .flow [.value, .flowEntry, .flowMappingEnd]
        let value ← readValue fuel .flow [.flowEntry, .flowMappingEnd]
        return (key, value) :: (← readFlowEntries fuel false)
      else if ← sees [.flowMappingEnd] then
        skip
        return []
      else
        let key ← readNode fuel .flow
        return (key, .empty) :: (← readFlowEntries fuel false)

end

/-- The directives in front of a document: at most one version, which has to be 1.1 or 1.2,
and tag handles that differ. -/
def readDirectives (hasVersion : Bool) (handles : List (String × String)) :
    List Token → Option (List (String × String) × List Token)
  | .version major minor :: tokens =>
    if !hasVersion ∧ major = 1 ∧ (minor = 1 ∨ minor = 2) then
      readDirectives true handles tokens
    else
      none
  | .tagHandle handle stem :: tokens =>
    if (handles.lookup handle).isNone then
      readDirectives hasVersion ((handle, stem) :: handles) tokens
    else
      none
  | tokens => some (handles, tokens)

/-- The handles that need no directive. -/
def defaultHandles : List (String × String) :=
  [("!", "!"), ("!!", "tag:yaml.org,2002:")]

/-- The root of a document that starts with these tokens, and what follows it. -/
def readRoot (handles : List (String × String)) (isMarked : Bool) (tokens : List Token) :
    Option (Node × List Token) :=
  let isEmpty : Bool := match tokens with
    | [] => true
    | .version _ _ :: _ => true
    | .tagHandle _ _ :: _ => true
    | .documentStart :: _ => true
    | .documentEnd :: _ => true
    | _ => false
  if isMarked ∧ isEmpty then
    some (.empty, tokens)
  else
    let fuel := 4 * tokens.length + 4
    ((readNode fuel .block).run ⟨tokens, [], handles ++ defaultHandles⟩).map
      fun (node, reader) => (node, reader.tokens)

/-- The root of the only document of a stream; that of an empty stream is empty. -/
def Node.ofTokens? (tokens : List Token) : Option Node := do
  if tokens.isEmpty then
    return .empty
  else
    let (handles, marked) ← readDirectives false [] tokens
    let (node, rest) ←
      match marked with
      | .documentStart :: tokens => readRoot handles true tokens
      | _ => if marked.length = tokens.length then readRoot [] false tokens else none
    if rest.all (· = .documentEnd) then return node else none

/-- The root of the document that a text holds. -/
def Node.parse? (source : String) : Option Node :=
  (Token.readAll source.toList).bind Node.ofTokens?

end ContractLowering.Yaml
