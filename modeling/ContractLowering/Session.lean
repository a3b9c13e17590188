import ContractLowering.Lowering.Contract
import ContractLowering.Schema.Reader

/-! # Sessions

A session keeps a schema and a list of warnings. Each request is answered from the current
schema, and what it warns about is appended to the list. A request that fails changes
nothing; a whole contract is answered with warnings of its own.
-/

namespace ContractLowering

structure Session where
  schema : Schema
  warnings : List Warning
  deriving DecidableEq

inductive Request where
  | schema (source : String)
  | declaration (source : String)
  | function (source : String)
  | statement (location : Location) (source : String)
  | contract (options : Options) (source : String)

inductive Reply where
  | loaded
  | declaration (lowered : Target.StateVariable)
  | function (lowered : Target.Function)
  | notFunction
  | statement (lowered : Target.Statement)
  | contract (lowering : Lowering)

inductive Refusal where
  | schema
  | node
  | load (failure : LoadFailure)
  | failed (failure : Failure)

/-- Read and lower the contract that a text holds. -/
def lowerSource (schema : Schema) (options : Options) (source : String) :
    Except Refusal Lowering := do
  let contract ← (Source.Contract.parse source).mapError .load
  (lower schema options contract).mapError .failed

namespace Session

/-- The value that the text of a node spells. -/
def readNode (source : String) : Except Refusal Json :=
  match Json.parse? source with
  | some value => .ok value
  | none => .error .node

def loadSchema (session : Session) (source : String) : Except Refusal Session :=
  match Schema.parse? source with
  | some schema => .ok { session with schema := schema }
  | none => .error .schema

/-- Answer with a lowered node, and append its warnings. -/
def record {α : Type} (session : Session) (lowered : Except Failure (Lowered α))
    (reply : α → Reply) : Except Refusal (Reply × Session) := do
  let lowered ← lowered.mapError Refusal.failed
  return (reply lowered.node, { session with warnings := session.warnings ++ lowered.warnings })

/-- A lowered function, if the node declares one. -/
def lowerElement (schema : Schema) (value : Json) :
    Except Failure (Option (Lowered Target.Function)) := do
  match ← Source.Element.read value with
  | .function function => return some (← lowerFunction schema function)
  | _ => return none

def answer (session : Session) : Request → Except Refusal (Reply × Session)
  | .schema source => do return (.loaded, ← session.loadSchema source)
  | .declaration source => do
    session.record (lowerDeclarator session.schema (← readNode source)) .declaration
  | .function source => do
    match ← (lowerElement session.schema (← readNode source)).mapError Refusal.failed with
    | some lowered => session.record (.ok lowered) .function
    | none => return (.notFunction, session)
  | .statement location source => do
    let statement ← (Source.Statement.read location (← readNode source)).mapError Refusal.failed
    let lowered ← (lowerStatement location statement).mapError Refusal.failed
    return (.statement lowered, session)
  | .contract options source => do
    return (.contract (← lowerSource session.schema options source), session)

/-- The outcome of a request and the session after it. -/
def step (session : Session) (request : Request) : Except Refusal Reply × Session :=
  match session.answer request with
  | .ok (reply, session) => (.ok reply, session)
  | .error refusal => (.error refusal, session)

end Session

end ContractLowering
