/-! # Characters with their places

The text of a document is taken as a list of characters, each with its index, line and
column. Indices count octets and columns count characters. A line break is one character
whatever it was written with: a carriage return, a line feed, both, and a next line all become
a line feed, while the line and paragraph separators stay what they are.
-/

namespace ContractLowering.Yaml

structure Placed where
  char : Char
  index : Nat
  line : Nat
  column : Nat
  deriving DecidableEq

/-- The rest of a text, from the current place on. -/
abbrev Input := List Placed

/-- The characters a document may hold. -/
def isAllowed (c : Char) : Bool :=
  c = '\t' ∨ c = '\n' ∨ c = '\r' ∨ (0x20 ≤ c.toNat ∧ c.toNat ≤ 0x7E) ∨ c.toNat = 0x85 ∨
    (0xA0 ≤ c.toNat ∧ c.toNat ≤ 0xFFFD) ∨ 0x10000 ≤ c.toNat

def isSeparator (c : Char) : Bool :=
  c = '\u2028' ∨ c = '\u2029'

def placeFrom (index line column : Nat) : List Char → Input
  | [] => []
  | '\r' :: '\n' :: cs => ⟨'\n', index, line, column⟩ :: placeFrom (index + 2) (line + 1) 0 cs
  | c :: cs =>
    if c = '\r' ∨ c = '\n' ∨ c = '\u0085' then
      ⟨'\n', index, line, column⟩ :: placeFrom (index + c.utf8Size) (line + 1) 0 cs
    else if isSeparator c then
      ⟨c, index, line, column⟩ :: placeFrom (index + c.utf8Size) (line + 1) 0 cs
    else
      ⟨c, index, line, column⟩ :: placeFrom (index + c.utf8Size) line (column + 1) cs

/-- The placed characters of a text, if the document may hold them all. -/
def place? (cs : List Char) : Option Input :=
  if cs.all isAllowed then some (placeFrom 0 0 0 cs) else none

def isBlank (c : Char) : Bool :=
  c = ' ' ∨ c = '\t'

def isBreak (c : Char) : Bool :=
  c = '\n' ∨ isSeparator c

/-- Letters, digits, `_` and `-`: what names of anchors, handles and directives consist of. -/
def isWord (c : Char) : Bool :=
  ('0' ≤ c ∧ c ≤ '9') ∨ ('A' ≤ c ∧ c ≤ 'Z') ∨ ('a' ≤ c ∧ c ≤ 'z') ∨ c = '_' ∨ c = '-'

def digit? (c : Char) : Option Nat :=
  if '0' ≤ c ∧ c ≤ '9' then some (c.toNat - '0'.toNat) else none

def hexDigit? (c : Char) : Option Nat :=
  if '0' ≤ c ∧ c ≤ '9' then some (c.toNat - '0'.toNat)
  else if 'a' ≤ c ∧ c ≤ 'f' then some (c.toNat - 'a'.toNat + 10)
  else if 'A' ≤ c ∧ c ≤ 'F' then some (c.toNat - 'A'.toNat + 10)
  else none

namespace Input

def peek (input : Input) (offset : Nat) : Option Char :=
  input[offset]?.map Placed.char

def skip (input : Input) (count : Nat) : Input :=
  List.drop count input

def startsWith (input : Input) (c : Char) : Bool :=
  input.peek 0 = some c

/-- Whether a line ends at an offset. -/
def endsLine (input : Input) (offset : Nat) : Bool :=
  (input.peek offset).all isBreak

/-- Whether a blank or the end of a line stands at an offset. -/
def endsWord (input : Input) (offset : Nat) : Bool :=
  (input.peek offset).all fun c => isBlank c || isBreak c

def takeWhile (input : Input) (p : Char → Bool) : List Char :=
  (List.takeWhile (fun (placed : Placed) => p placed.char) input).map Placed.char

def dropWhile (input : Input) (p : Char → Bool) : Input :=
  List.dropWhile (fun (placed : Placed) => p placed.char) input

/-- Whether three of a character and then a blank or a line end stand at the start of a line. -/
def marksDocument (input : Input) (c : Char) : Bool :=
  (input.head?.any fun placed => placed.column = 0) && (input.take 3).map Placed.char = [c, c, c] &&
    input.endsWord 3

def atDocumentMark (input : Input) : Bool :=
  input.marksDocument '-' || input.marksDocument '.'

/-- After the blanks and the comment that may end a line, and the line end itself. -/
def afterLine? (input : Input) : Option Input :=
  let input := input.dropWhile isBlank
  let input := if input.startsWith '#' then input.dropWhile (!isBreak ·) else input
  if input.endsLine 0 then some (input.skip 1) else none

end Input

end ContractLowering.Yaml
