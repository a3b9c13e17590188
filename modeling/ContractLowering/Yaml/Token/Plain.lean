import ContractLowering.Yaml.Token.Folding

/-! # Plain scalars

A plain scalar goes on over lines that are indented deeper than its parent. It ends before a
comment, a mapping indicator or a document mark, and inside a flow collection also before the
collection's own indicators.
-/

namespace ContractLowering.Yaml

def isFlowIndicator (c : Char) : Bool :=
  c = ',' ∨ c = '[' ∨ c = ']' ∨ c = '\x7b' ∨ c = '\x7d'

/-- Characters that cannot start a plain scalar. -/
def isIndicator (c : Char) : Bool :=
  "-?:,[]\x7b\x7d#&*!|>'\"%@`".toList.contains c

/-- Whether a plain scalar may start here. -/
def startsPlain (inFlow : Bool) (input : Input) : Bool :=
  match input.peek 0 with
  | none => false
  | some c =>
    !(isBlank c || isBreak c || isIndicator c) ||
      (c = '-' && !(input.peek 1).any isBlank) ||
      (!inFlow && (c = '?' || c = ':') && !input.endsWord 1)

/-- Whether the scalar ends before a word after a gap. -/
def endsAfterGap (inFlow : Bool) (indent : Int) (input : Input) : Bool :=
  input.startsWith '#' || input.atDocumentMark ||
    (!inFlow && input.head?.any fun placed => (placed.column : Int) < indent)

/-- A colon that a flow collection does not allow at the end of a word. -/
def isStrayColon (inFlow : Bool) (input : Input) : Bool :=
  inFlow && input.startsWith ':' && (input.peek 1).any fun c => isFlowIndicator c || c = '?'

def endsAtIndicator (inFlow : Bool) (input : Input) : Bool :=
  (input.startsWith ':' && input.endsWord 1) || (inFlow && (input.peek 0).any isFlowIndicator)

structure PlainScalar where
  text : String
  /-- Whether the scalar is followed by a line break. -/
  endsLine : Bool
  rest : Input

def PlainScalar.of (chars : List Char) (gap : Gap) (rest : Input) : PlainScalar :=
  ⟨String.ofList chars.reverse, gap.hasBreak, rest⟩

/-- Read on after `chars` and a gap; the gap counts only if another word follows. Indentation
is by spaces, so a tab in it is refused. -/
def readPlainFrom (inFlow : Bool) (indent : Int) (chars : List Char) (gap : Gap) :
    Input → Option PlainScalar
  | [] => some (.of chars gap [])
  | c :: rest =>
    let here := c :: rest
    if isBlank c.char then
      if gap.hasBreak ∧ (c.column : Int) < indent ∧ c.char = '\t' then
        none
      else
        readPlainFrom inFlow indent chars (gap.addBlank c.char) rest
    else if isBreak c.char then
      readPlainFrom inFlow indent chars (gap.addBreak c.char) rest
    else if gap ≠ .empty ∧ endsAfterGap inFlow indent here then
      some (.of chars gap here)
    else if isStrayColon inFlow here then
      none
    else if endsAtIndicator inFlow here then
      some (.of chars gap here)
    else
      readPlainFrom inFlow indent (c.char :: (gap.folded ++ chars)) .empty rest

def readPlain (inFlow : Bool) (indent : Int) (input : Input) : Option PlainScalar :=
  readPlainFrom inFlow indent [] .empty input

end ContractLowering.Yaml
