import ContractLowering.Yaml.Placed
import ContractLowering.Yaml.Token

/-! # Anchors, tags and directives

A tag is a handle with a suffix, or a verbatim name. Escaped octets of a tag are held as the
characters of the same number, so that tags compare by octets.
-/

namespace ContractLowering.Yaml

/-- The name of an anchor, which has to be followed by a blank, a line end or one of some
indicators. -/
def readAnchorName (input : Input) : Option (String × Input) :=
  let name := input.takeWhile isWord
  let rest := input.dropWhile isWord
  if name.isEmpty then
    none
  else if rest.endsWord 0 ∨ (rest.peek 0).any "?:,]\x7d%@`".toList.contains then
    some (String.ofList name, rest)
  else
    none

/-- Characters of tag names besides letters, digits, `_`, `-` and escapes. -/
def isTagPunctuation (c : Char) : Bool :=
  ";/?:@&=+$.!~*'()".toList.contains c

/-- The octets that belong to a sequence with this leading octet. -/
def sequenceLength? (octet : Nat) : Option Nat :=
  if octet < 0x80 then some 1
  else if 0xC0 ≤ octet ∧ octet < 0xE0 then some 2
  else if 0xE0 ≤ octet ∧ octet < 0xF0 then some 3
  else if 0xF0 ≤ octet ∧ octet < 0xF8 then some 4
  else none

/-- The text of a tag name, which ends before an octet of zero. -/
def tagText (name : List Char) : String :=
  String.ofList (name.takeWhile (· ≠ '\x00'))

/-- A tag name; `owed` octets of an escaped sequence are still to come. Commas and brackets
are part of it where `brackets` says so. -/
def readTagName (brackets : Bool) (owed : Nat) (chars : List Char) :
    Input → Option (List Char × Input)
  | ⟨'%', _, _, _⟩ :: a :: b :: rest =>
    match hexDigit? a.char, hexDigit? b.char with
    | some high, some low =>
      let octet := high * 16 + low
      let chars := Char.ofNat octet :: chars
      if owed = 0 then
        match sequenceLength? octet with
        | some length => readTagName brackets (length - 1) chars rest
        | none => none
      else if 0x80 ≤ octet ∧ octet < 0xC0 then
        readTagName brackets (owed - 1) chars rest
      else
        none
    | _, _ => none
  | input =>
    if owed ≠ 0 ∨ input.startsWith '%' then
      none
    else
      match input with
      | [] => some (chars.reverse, [])
      | c :: rest =>
        if isWord c.char ∨ isTagPunctuation c.char ∨
            (brackets ∧ (c.char = ',' ∨ c.char = '[' ∨ c.char = ']')) then
          readTagName brackets 0 (c.char :: chars) rest
        else
          some (chars.reverse, c :: rest)

/-- A tag name of at least one character. -/
def readTagNameSome (brackets : Bool) (input : Input) : Option (String × Input) :=
  ((readTagName brackets 0 [] input).filter fun (name, _) => !name.isEmpty).map
    fun (name, rest) => (tagText name, rest)

/-- The handle in front of a tag: an exclamation mark, a word, and a second mark if there is
one. -/
def readHandle (input : Input) : Option (List Char × Input) :=
  if input.startsWith '!' then
    let input := input.skip 1
    let word := input.takeWhile isWord
    let rest := input.dropWhile isWord
    if rest.startsWith '!' then
      some ('!' :: word ++ ['!'], rest.skip 1)
    else
      some ('!' :: word, rest)
  else
    none

def isFullHandle (handle : List Char) : Bool :=
  1 < handle.length ∧ handle.getLast? = some '!'

/-- A verbatim tag, read after its opening mark. -/
def readVerbatimTag (input : Input) : Option (RawTag × Input) := do
  let (name, rest) ← readTagNameSome true input
  if rest.startsWith '>' then
    return (⟨"", name⟩, rest.skip 1)
  else
    none

/-- A tag with a handle of its own, or with the primary handle. A lone mark is the name of a
tag, not a handle. -/
def readShortTag (input : Input) : Option (RawTag × Input) := do
  let (handle, rest) ← readHandle input
  if isFullHandle handle then
    let (name, rest) ← readTagNameSome false rest
    return (⟨String.ofList handle, name⟩, rest)
  else
    let (name, rest) ← readTagName false 0 (handle.drop 1).reverse rest
    if (tagText name).isEmpty then
      return (⟨"", "!"⟩, rest)
    else
      return (⟨"!", tagText name⟩, rest)

/-- A tag, which a blank or a line end has to follow, or inside a flow collection a comma. -/
def readTag (inFlow : Bool) (input : Input) : Option (RawTag × Input) :=
  let tag := if input.peek 1 = some '<' then readVerbatimTag (input.skip 2) else readShortTag input
  tag.filter fun (_, rest) => (inFlow ∧ rest.startsWith ',') ∨ rest.endsWord 0

/-- A number of a version, of at most nine digits. -/
def readVersionNumber (input : Input) : Option (Nat × Input) :=
  let isDigit (c : Char) : Bool := (digit? c).isSome
  let digits := input.takeWhile isDigit
  if digits.isEmpty ∨ 9 < digits.length then
    none
  else
    some ((digits.filterMap digit?).foldl (fun n d => n * 10 + d) 0, input.dropWhile isDigit)

def readVersion (input : Input) : Option (Token × Input) := do
  let (major, rest) ← readVersionNumber (input.dropWhile isBlank)
  if rest.startsWith '.' then
    let (minor, rest) ← readVersionNumber (rest.skip 1)
    return (.version major minor, rest)
  else
    none

def readTagHandle (input : Input) : Option (Token × Input) := do
  let (handle, rest) ← readHandle (input.dropWhile isBlank)
  if (isFullHandle handle ∨ handle.length = 1) ∧ (rest.peek 0).any isBlank then
    let (stem, rest) ← readTagNameSome true (rest.dropWhile isBlank)
    if rest.endsWord 0 then
      return (.tagHandle (String.ofList handle) stem, rest)
    else
      none
  else
    none

/-- A directive with the rest of its line, read after its indicator. -/
def readDirective (input : Input) : Option (Token × Input) := do
  let name := input.takeWhile isWord
  let rest := input.dropWhile isWord
  if rest.endsWord 0 then
    let (token, rest) ←
      if name = "YAML".toList then readVersion rest
      else if name = "TAG".toList then readTagHandle rest
      else none
    return (token, ← rest.afterLine?)
  else
    none

end ContractLowering.Yaml
