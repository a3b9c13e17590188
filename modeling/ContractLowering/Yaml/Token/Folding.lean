import ContractLowering.Yaml.Placed

/-! # Line folding

Between two words of a flowing scalar stands a gap of blanks and line breaks. Blanks within a
line are kept, a single line break becomes a space, and of several the first is dropped.
Separators are never dropped.
-/

namespace ContractLowering.Yaml

/-- A gap: characters in reverse order. After a line break the first break is kept apart; an
escaped break counts as none. -/
inductive Gap where
  | blanks (chars : List Char)
  | breaks (first : Option Char) (others : List Char)
  deriving DecidableEq

namespace Gap

def empty : Gap := blanks []

/-- Blanks before and after a line break are dropped. -/
def addBlank (c : Char) : Gap → Gap
  | blanks chars => blanks (c :: chars)
  | breaks first others => breaks first others

def addBreak (c : Char) : Gap → Gap
  | blanks _ => breaks (some c) []
  | breaks first others => breaks first (c :: others)

def hasBreak : Gap → Bool
  | blanks _ => false
  | breaks _ _ => true

/-- What a gap stands for, in reverse order. -/
def folded : Gap → List Char
  | blanks chars => chars
  | breaks none others => others
  | breaks (some first) others =>
    if first = '\n' then (if others.isEmpty then [' '] else others) else others ++ [first]

end Gap

end ContractLowering.Yaml
