import ContractLowering.Diagnostic.Location

/-! # Warnings

A warning reports a type slot for which the schema has no entry, or a body element of a kind
that is not lowered. Neither stops the lowering.
-/

namespace ContractLowering

/-- A place in the lowered contract whose type the schema may supply. -/
inductive TypeSlot where
  | state (name : String)
  | parameter (function name : String)
  | result (function : String)
  deriving DecidableEq

namespace TypeSlot

/-- The schema entry that supplies the type. -/
def entry : TypeSlot → String
  | state name => "state." ++ name
  | parameter function name => "defs." ++ function ++ ".parameters." ++ name
  | result function => "defs." ++ function ++ ".type"

/-- The node that needs the type. -/
def location : TypeSlot → Location
  | state name => .declarator (some name)
  | parameter function _ => .functionDeclaration (some function)
  | result function => .functionDeclaration (some function)

end TypeSlot

inductive Warning where
  | unresolved (slot : TypeSlot)
  | skipped (kind : String) (index : Nat)
  deriving DecidableEq

/-- The report on a missing schema entry. -/
def unresolvedMessage (location : Location) (entry : String) : String :=
  "no schema entry for " ++ entry ++ " (needed by " ++ location.text ++ "), type left unresolved"

/-- The report on a body element that is not lowered. -/
def skippedMessage (kind : String) (index : Nat) : String :=
  "skipped body element #" ++ toString index ++ " of unsupported kind " ++ kind

def Warning.message : Warning → String
  | unresolved slot => unresolvedMessage slot.location slot.entry
  | skipped kind index => skippedMessage kind index

end ContractLowering
