import ContractLowering.Yaml.Token.Folding

/-! # Quoted scalars

Between single quotes a quote is written twice and nothing else is special. Between double
quotes a backslash starts an escape. Both kinds fold lines, and neither may hold a document
mark.
-/

namespace ContractLowering.Yaml

inductive QuotedState where
  /-- Between characters. -/
  | text
  /-- After a quote that another quote follows. -/
  | doubled
  /-- After a backslash. -/
  | escape
  /-- Inside a numeric escape, with the digits left and the value so far. -/
  | code (left value : Nat)

/-- The character of a short escape. -/
def shortEscape? (c : Char) : Option Char :=
  [('0', 0x00), ('a', 0x07), ('b', 0x08), ('t', 0x09), ('\t', 0x09), ('n', 0x0A), ('v', 0x0B),
    ('f', 0x0C), ('r', 0x0D), ('e', 0x1B), (' ', 0x20), ('"', 0x22), ('/', 0x2F), ('\\', 0x5C),
    ('N', 0x85), ('_', 0xA0), ('L', 0x2028), ('P', 0x2029)].lookup c |>.map Char.ofNat

/-- The number of digits of a numeric escape. -/
def codeLength? (c : Char) : Option Nat :=
  [('x', 2), ('u', 4), ('U', 8)].lookup c

def isScalarValue (n : Nat) : Bool :=
  n < 0xD800 ∨ (0xDFFF < n ∧ n ≤ 0x10FFFF)

/-- Read up to the closing quote, after `chars` and a gap. -/
def readQuotedFrom (quote : Char) (state : QuotedState) (chars : List Char) (gap : Gap) :
    Input → Option (String × Input)
  | [] => none
  | c :: rest =>
    match state with
    | .doubled => readQuotedFrom quote .text (c.char :: chars) .empty rest
    | .escape =>
      match shortEscape? c.char, codeLength? c.char with
      | some e, _ => readQuotedFrom quote .text (e :: chars) .empty rest
      | none, some length => readQuotedFrom quote (.code length 0) chars .empty rest
      | none, none =>
        if isBreak c.char then readQuotedFrom quote .text chars (.breaks none []) rest else none
    | .code left value =>
      match hexDigit? c.char with
      | none => none
      | some digit =>
        let value := value * 16 + digit
        if 1 < left then
          readQuotedFrom quote (.code (left - 1) value) chars .empty rest
        else if isScalarValue value then
          readQuotedFrom quote .text (Char.ofNat value :: chars) .empty rest
        else
          none
    | .text =>
      if isBlank c.char then
        readQuotedFrom quote .text chars (gap.addBlank c.char) rest
      else if isBreak c.char then
        readQuotedFrom quote .text chars (gap.addBreak c.char) rest
      else if Input.atDocumentMark (c :: rest) then
        none
      else
        let chars := gap.folded ++ chars
        if c.char = quote then
          if quote = '\'' ∧ Input.startsWith rest '\'' then
            readQuotedFrom quote .doubled chars .empty rest
          else
            some (String.ofList chars.reverse, rest)
        else if quote = '"' ∧ c.char = '\\' then
          readQuotedFrom quote .escape chars .empty rest
        else
          readQuotedFrom quote .text (c.char :: chars) .empty rest

/-- A quoted scalar, read after its opening quote. -/
def readQuoted (quote : Char) (input : Input) : Option (String × Input) :=
  readQuotedFrom quote .text [] .empty input

end ContractLowering.Yaml
