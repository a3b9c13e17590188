/-! # Tokens of a YAML document

Block structure, which a document expresses by indentation, is explicit among the tokens.
-/

namespace ContractLowering.Yaml

inductive Style where
  | plain
  | singleQuoted
  | doubleQuoted
  | literal
  | folded
  deriving DecidableEq

/-- A tag as written: the handle is empty for a verbatim tag, whose name stands as it is. -/
structure RawTag where
  handle : String
  suffix : String
  deriving DecidableEq

inductive Token where
  | version (major minor : Nat)
  | tagHandle (handle stem : String)
  | documentStart
  | documentEnd
  | blockSequenceStart
  | blockMappingStart
  | blockEnd
  | flowSequenceStart
  | flowSequenceEnd
  | flowMappingStart
  | flowMappingEnd
  | blockEntry
  | flowEntry
  | key
  | value
  | reference (name : String)
  | anchor (name : String)
  | tag (tag : RawTag)
  | scalar (text : String) (style : Style)
  deriving DecidableEq

end ContractLowering.Yaml
