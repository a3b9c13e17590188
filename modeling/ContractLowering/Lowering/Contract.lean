import ContractLowering.Lowering.Function
import ContractLowering.Source.Contract

/-! # Lowering of contracts

A pass goes over the body once and gathers lowered nodes, failures and warnings. In strict
mode the first failure ends the pass; in permissive mode failures are recorded and the pass
goes on. What happened on the way is told by remarks, which outlive a pass that was ended.
-/

namespace ContractLowering

inductive Mode where
  | strict
  | permissive
  deriving DecidableEq

structure Options where
  mode : Mode
  /-- Whether the schema's events are appended to the contract. -/
  events : Bool
  deriving DecidableEq

/-- What a pass does with a node that is not at fault. -/
inductive Remark where
  | variable (name : Option String)
  | function (name : String)
  | skipped (kind : String) (index : Nat)
  deriving DecidableEq

structure Progress where
  nodes : List Target.SubNode
  failures : List Failure
  warnings : List Warning
  remarks : List Remark
  deriving DecidableEq

/-- The end of a strict pass. -/
structure Abort where
  failure : Failure
  remarks : List Remark
  deriving DecidableEq

namespace Progress

def start : Progress := ⟨[], [], [], []⟩

def fail (mode : Mode) (progress : Progress) (failure : Failure) : Except Abort Progress :=
  match mode with
  | .strict => .error ⟨failure, progress.remarks⟩
  | .permissive => .ok { progress with failures := progress.failures ++ [failure] }

def add (progress : Progress) (node : Lowered Target.SubNode) (remark : Remark) : Progress :=
  { progress with
    nodes := progress.nodes ++ [node.node]
    warnings := progress.warnings ++ node.warnings
    remarks := progress.remarks ++ [remark] }

def skip (progress : Progress) (kind : String) (index : Nat) : Progress :=
  { progress with
    warnings := progress.warnings ++ [.skipped kind index]
    remarks := progress.remarks ++ [.skipped kind index] }

end Progress

/-- Read and lower a declarator. -/
def lowerDeclarator (schema : Schema) (value : Json) :
    Except Failure (Lowered Target.StateVariable) := do
  lowerVariable schema (← Source.Variable.read value)

def passVariable (schema : Schema) (mode : Mode) (progress : Progress) (value : Json) :
    Except Abort Progress :=
  match lowerDeclarator schema value with
  | .error failure => progress.fail mode failure
  | .ok lowered =>
    let name := lowered.node.declared.head?.bind (·.name)
    .ok (progress.add ⟨.state lowered.node, lowered.warnings⟩ (.variable name))

def passElement (schema : Schema) (mode : Mode) (progress : Progress) (element : Json × Nat) :
    Except Abort Progress :=
  match Source.Element.read element.1 with
  | .error failure => progress.fail mode failure
  | .ok (.variableStatement declarations) => declarations.foldlM (passVariable schema mode) progress
  | .ok (.function function) =>
    match lowerFunction schema function with
    | .error failure => progress.fail mode failure
    | .ok lowered =>
      .ok (progress.add ⟨.function lowered.node, lowered.warnings⟩ (.function lowered.node.name))
  | .ok (.other kind) => .ok (progress.skip kind element.2)

/-- The events of a schema as they are appended to a contract. -/
def lowerEvents (schema : Schema) : List Target.SubNode :=
  schema.events.map fun (name, parameters) =>
    .event ⟨name, parameters.map fun p => .parameter p.name (.plain (.ofSchema p.type)), false⟩

/-- The outcome of a pass that reached the end of the body. -/
structure Lowering where
  contract : Target.Contract
  failures : List Failure
  warnings : List Warning
  deriving DecidableEq

def Lowering.isClean (lowering : Lowering) : Bool :=
  lowering.failures.isEmpty

/-- A pass over the body of a contract. -/
def pass (schema : Schema) (mode : Mode) (contract : Source.Contract) : Except Abort Progress :=
  contract.body.zipIdx.foldlM (passElement schema mode) .start

def finish (schema : Schema) (options : Options) (name : String) (progress : Progress) : Lowering :=
  let events := if options.events then lowerEvents schema else []
  ⟨.ofSubNodes name (progress.nodes ++ events), progress.failures, progress.warnings⟩

/-- Lower a contract; only a strict pass can fail. -/
def lower (schema : Schema) (options : Options) (contract : Source.Contract) :
    Except Failure Lowering :=
  match pass schema options.mode contract with
  | .ok progress => .ok (finish schema options contract.name progress)
  | .error abort => .error abort.failure

/-- The remarks of a pass, up to its end. -/
def remarks (schema : Schema) (mode : Mode) (contract : Source.Contract) : List Remark :=
  match pass schema mode contract with
  | .ok progress => progress.remarks
  | .error abort => abort.remarks

end ContractLowering
