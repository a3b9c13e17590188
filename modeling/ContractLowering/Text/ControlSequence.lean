/-! # Control sequences

A terminal does not show every character of a text. An escape starts a sequence, which ends
with its final character, or a string, which ends with a terminator; control characters show
nothing by themselves, white space excepted.
-/

namespace ContractLowering

/-- What a character is part of. -/
inductive ControlState where
  | ground
  /-- An escape that may become a sequence or a string. -/
  | escape
  | intermediate
  | sequence
  /-- The head of a device string, in three parts. -/
  | deviceStart
  | deviceParameters
  | deviceIntermediate
  /-- The body of a device string or of a string for applications. -/
  | string
  /-- A command for the operating system. -/
  | command
  deriving DecidableEq

namespace ControlState

/-- The octet that ends a string. -/
def stringTerminator : UInt8 := 0x9C

def endsString (c : Char) : Bool :=
  0x80 ≤ c.toNat ∧ c.toString.toUTF8.toList.contains stringTerminator

def isSpacing (c : Char) : Bool :=
  c = '\t' ∨ c = '\n' ∨ c = '\x0c' ∨ c = '\r'

def isIntermediate (c : Char) : Bool :=
  0x20 ≤ c.toNat ∧ c.toNat ≤ 0x2F

def isParameter (c : Char) : Bool :=
  0x30 ≤ c.toNat ∧ c.toNat ≤ 0x3F

/-- The parameters that only a first place admits. -/
def isPrivate (c : Char) : Bool :=
  0x3C ≤ c.toNat ∧ c.toNat ≤ 0x3F

def isFinal (c : Char) : Bool :=
  0x40 ≤ c.toNat ∧ c.toNat ≤ 0x7E

/-- After a character; cancel and substitute end everything. -/
def next (state : ControlState) (c : Char) : ControlState :=
  if c = '\x18' ∨ c = '\x1a' then
    ground
  else if c = '\x1b' then
    escape
  else
    match state with
    | ground => ground
    | escape =>
      if isIntermediate c then intermediate
      else if c = '[' then sequence
      else if c = ']' then command
      else if c = 'P' then deviceStart
      else if c = 'X' ∨ c = '^' ∨ c = '_' then string
      else if isParameter c ∨ isFinal c then ground
      else escape
    | intermediate => if isParameter c ∨ isFinal c then ground else intermediate
    | sequence => if isFinal c then ground else sequence
    | deviceStart =>
      if isIntermediate c then deviceIntermediate
      else if isParameter c then deviceParameters
      else if isFinal c then string
      else deviceStart
    | deviceParameters =>
      if isIntermediate c then deviceIntermediate
      else if isPrivate c ∨ isFinal c then string
      else deviceParameters
    | deviceIntermediate => if isParameter c ∨ isFinal c then string else deviceIntermediate
    | string => if endsString c then ground else string
    | command => if c = '\x07' then ground else command

def shows (state : ControlState) (c : Char) : Bool :=
  match state with
  | ground => isSpacing c ∨ (0x20 ≤ c.toNat ∧ c ≠ '\x7f')
  | escape | intermediate | sequence => isSpacing c
  | _ => false

end ControlState

/-- The characters that a terminal shows. White space within a sequence suspends it: what
follows is shown up to the next character that shows nothing, with which the sequence goes
on. A character beyond ASCII forgets a suspended sequence. -/
def shownChars (state : ControlState) (suspended : Bool) : List Char → List Char
  | [] => []
  | c :: cs =>
    if (if suspended then ControlState.ground else state).shows c then
      c :: shownChars (if c.toNat < 0x80 then state else .ground) true cs
    else
      shownChars (state.next c) false cs

/-- A text as a terminal shows it. -/
def shownText (text : String) : String :=
  String.ofList (shownChars .ground false text.toList)

end ContractLowering
