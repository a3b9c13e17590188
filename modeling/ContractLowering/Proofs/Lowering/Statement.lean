import ContractLowering.Lowering.Function
import ContractLowering.Proofs.Source.Blame
import ContractLowering.Proofs.Source.Statement

/-! # Lowered statements

A statement is lowered exactly when it returns a binary expression over two nodes with names. An
operand should be an identifier reference; a node of another kind is only found out when it has no
name, and otherwise passes for the identifier of its name. What is not lowered is unsupported for
the first construct without a counterpart, or else malformed, and is reported at the function.
-/

namespace ContractLowering

open Source (IsForeign Returns ReturnsBinary)

/-- Read and lower a statement of the function at this location. -/
def lowerStatementNode (location : Location) (value : Json) : Except Failure Target.Statement := do
  lowerStatement location (← Source.Statement.read location value)

theorem lowerBody_eq_mapM (location : Location) (body : List Json) :
    lowerBody location body = body.mapM (lowerStatementNode location) := rfl

variable {location : Location} {value : Json}

theorem lowerStatement_eq_ok {statement : Source.Statement} {operator l r : String} :
    lowerStatement location statement = .ok (.returnBinary operator l r) ↔
      statement = .returnBinary operator l r := by
  cases statement <;> simp [lowerStatement, unsupported]

theorem lowerStatementNode_eq_ok {operator l r : String} :
    lowerStatementNode location value = .ok (.returnBinary operator l r) ↔
      ∃ left right, ReturnsBinary value operator left right ∧
        left.get? "name" = some (.text l) ∧ right.get? "name" = some (.text r) := by
  simp only [lowerStatementNode, bind_eq_ok, lowerStatement_eq_ok, exists_eq_right,
    Source.Statement.read_eq_returnBinary]

/-- A node with a name, whatever its kind. -/
def IsNamed (operand : Members) : Prop :=
  ∃ name, operand.get? "name" = some (.text name)

/-- A node that no kind tells apart from an identifier. -/
def IsReference (operand : Members) : Prop :=
  ∀ kind, operand.get? "type" = some (.text kind) → kind = "Identifier"

theorem exists_lowerStatementNode :
    (∃ lowered, lowerStatementNode location value = .ok lowered) ↔
      ∃ operator left right, ReturnsBinary value operator left right ∧
        IsNamed left ∧ IsNamed right := by
  constructor
  · rintro ⟨⟨operator, l, r⟩, hlower⟩
    obtain ⟨left, right, hreturns, hl, hr⟩ := lowerStatementNode_eq_ok.mp hlower
    exact ⟨operator, left, right, hreturns, ⟨l, hl⟩, ⟨r, hr⟩⟩
  · rintro ⟨operator, left, right, hreturns, ⟨l, hl⟩, ⟨r, hr⟩⟩
    exact ⟨_, lowerStatementNode_eq_ok.mpr ⟨left, right, hreturns, hl, hr⟩⟩

/-- A statement is lowered to the operator and the names of both operands, whatever the operands
are. So they are identifier references exactly unless both have names and one of them is of another
kind. -/
theorem lowered_operands_reference_iff (location : Location) (value : Json) :
    (∀ operator l r, lowerStatementNode location value = .ok (.returnBinary operator l r) ↔
      ∃ left right, ReturnsBinary value operator left right ∧
        left.get? "name" = some (.text l) ∧ right.get? "name" = some (.text r)) ∧
    ((∀ lowered, lowerStatementNode location value = .ok lowered →
        ∃ operator left right, ReturnsBinary value operator left right ∧
          IsReference left ∧ IsReference right) ↔
      ¬ ∃ operator left right, ReturnsBinary value operator left right ∧
        IsNamed left ∧ IsNamed right ∧ ¬ (IsReference left ∧ IsReference right)) := by
  refine ⟨fun operator l r => lowerStatementNode_eq_ok, ?_, ?_⟩
  · rintro h ⟨operator, left, right, hreturns, hleft, hright, hforeign⟩
    obtain ⟨lowered, hlower⟩ := exists_lowerStatementNode.mpr
      ⟨operator, left, right, hreturns, hleft, hright⟩
    obtain ⟨_, _, _, hreturns', hreferences⟩ := h lowered hlower
    obtain ⟨-, rfl, rfl⟩ := hreturns.unique hreturns'
    exact hforeign hreferences
  · intro h lowered hlower
    obtain ⟨operator, left, right, hreturns, hleft, hright⟩ :=
      exists_lowerStatementNode.mp ⟨lowered, hlower⟩
    refine ⟨operator, left, right, hreturns, ?_⟩
    by_contra hforeign
    exact h ⟨operator, left, right, hreturns, hleft, hright, hforeign⟩

/-- The member of an account passes for the variable of its name. -/
theorem named_member_is_lowered :
    let account : Json := .object [("name", .text "account"), ("type", .text "Identifier")]
    let left : Members := [("name", .text "total"), ("object", account),
      ("type", .text "MemberExpression")]
    let right : Members := [("name", .text "b"), ("type", .text "Identifier")]
    let sum : Json := .object [("left", .object left), ("operator", .text "+"),
      ("right", .object right), ("type", .text "BinaryExpression")]
    let value : Json := .object [("argument", sum), ("type", .text "ReturnStatement")]
    lowerStatementNode (.functionDeclaration (some "f")) value =
        .ok (.returnBinary "+" "total" "b") ∧
      ReturnsBinary value "+" left right ∧ ¬ IsReference left ∧
      ¬ ∀ location value lowered, lowerStatementNode location value = .ok lowered →
        ∃ operator left right, ReturnsBinary value operator left right ∧
          IsReference left ∧ IsReference right := by
  intro account left right sum value
  have hreturns : ReturnsBinary value "+" left right := ⟨_, _, rfl, rfl, rfl, rfl, rfl, rfl, rfl⟩
  have hlower : lowerStatementNode (.functionDeclaration (some "f")) value =
      .ok (.returnBinary "+" "total" "b") :=
    lowerStatementNode_eq_ok.mpr ⟨left, right, hreturns, rfl, rfl⟩
  have hforeign : ¬ IsReference left := fun h => absurd (h "MemberExpression" rfl) (by decide)
  refine ⟨hlower, hreturns, hforeign, fun h => ?_⟩
  obtain ⟨_, _, _, hreturns', hleft, -⟩ := h _ value _ hlower
  obtain ⟨-, rfl, -⟩ := hreturns.unique hreturns'
  exact hforeign hleft

section Refusals

theorem lowerStatement_eq_unsupported {statement : Source.Statement} {construct : Construct} :
    lowerStatement location statement = unsupported location construct ↔
      (∃ kind, statement = .returnOther kind ∧ construct = .returned kind) ∨
        ∃ kind, statement = .other kind ∧ construct = .node kind := by
  cases statement with
  | returnBinary operator l r => simp [lowerStatement, unsupported]
  | returnOther kind => simp [lowerStatement, eq_comm]
  | other kind => simp [lowerStatement, eq_comm]

theorem lowerStatementNode_eq_unsupported {construct : Construct} :
    lowerStatementNode location value = unsupported location construct ↔
      Source.Statement.Unsupported value construct := by
  rw [lowerStatementNode, bind_eq_unsupported, Source.Statement.read_eq_unsupported]
  simp only [Source.Statement.read_eq_ok, lowerStatement_eq_unsupported]
  constructor
  · rintro (⟨returned, hreturns, h⟩ | ⟨statement, hspelt, h⟩)
    · obtain ⟨operator, left, hbinary, hoperator, hleft, h⟩ :=
        Source.Statement.readReturned_eq_unsupported.mp h
      rcases h with ⟨kind, hforeign, rfl⟩ | ⟨l, right, kind, hl, hright, hforeign, rfl⟩
      · exact .left ⟨returned, hreturns, hbinary, hoperator, hleft⟩ hforeign
      · obtain ⟨members, hvalue, hkind, hreturned⟩ := hreturns
        exact .right ⟨members, returned, hvalue, hkind, hreturned, hbinary, hoperator, hleft,
          hright⟩ hl hforeign
    · rcases h with ⟨kind, rfl, rfl⟩ | ⟨kind, rfl, rfl⟩
      · obtain _ | ⟨hreturns, hkind, hother⟩ | _ := hspelt
        exact .returned hreturns hkind hother
      · obtain _ | _ | ⟨hkind, hother⟩ := hspelt
        exact .statement hkind hother
  · intro h
    cases h with
    | statement hkind hother => exact .inr ⟨_, .other hkind hother, .inr ⟨_, rfl, rfl⟩⟩
    | returned hreturns hkind hother =>
      exact .inr ⟨_, .returnOther hreturns hkind hother, .inl ⟨_, rfl, rfl⟩⟩
    | left hreturns hforeign =>
      obtain ⟨returned, hreturns, hbinary, hoperator, hleft⟩ := hreturns
      exact .inl ⟨returned, hreturns, Source.Statement.readReturned_eq_unsupported.mpr
        ⟨_, _, hbinary, hoperator, hleft, .inl ⟨_, hforeign, rfl⟩⟩⟩
    | right hreturns hname hforeign =>
      obtain ⟨members, returned, hvalue, hkind, hreturned, hbinary, hoperator, hleft, hright⟩ :=
        hreturns
      exact .inl ⟨returned, ⟨members, hvalue, hkind, hreturned⟩,
        Source.Statement.readReturned_eq_unsupported.mpr
          ⟨_, _, hbinary, hoperator, hleft, .inr ⟨_, _, _, hname, hright, hforeign, rfl⟩⟩⟩

theorem lowerStatement_failsAt (location : Location) (statement : Source.Statement) :
    FailsAt location (lowerStatement location statement) := by
  cases statement with
  | returnBinary operator l r => exact .ok _
  | returnOther kind => exact unsupported_failsAt _ _
  | other kind => exact unsupported_failsAt _ _

theorem lowerStatementNode_failsAt (location : Location) (value : Json) :
    FailsAt location (lowerStatementNode location value) :=
  (Source.Statement.read_failsAt location value).bind (lowerStatement_failsAt location)

end Refusals

/-- A statement is lowered, to its operator and the names of its operands, exactly when it returns a
binary expression over two nodes with names. It is unsupported exactly for the construct without a
counterpart that is met first, malformed otherwise, and always reported at its function. -/
theorem lowerStatementNode_language (location : Location) (value : Json) :
    (∀ lowered, lowerStatementNode location value = .ok lowered ↔
      ∃ operator l r left right, ReturnsBinary value operator left right ∧
        left.get? "name" = some (.text l) ∧ right.get? "name" = some (.text r) ∧
        lowered = .returnBinary operator l r) ∧
    (ReportsUnsupported (lowerStatementNode location value) ↔
      ∃ construct, Source.Statement.Unsupported value construct) ∧
    (∀ construct, Source.Statement.Unsupported value construct →
      lowerStatementNode location value = .error (.unsupported location construct)) ∧
    (ReportsMalformed (lowerStatementNode location value) ↔
      (¬ ∃ construct, Source.Statement.Unsupported value construct) ∧
      ¬ ∃ operator left right, ReturnsBinary value operator left right ∧
        IsNamed left ∧ IsNamed right) ∧
    ∀ failure, lowerStatementNode location value = .error failure →
      failure.location = location := by
  have hunsupported : ReportsUnsupported (lowerStatementNode location value) ↔
      ∃ construct, Source.Statement.Unsupported value construct := by
    constructor
    · rintro ⟨place, construct, h⟩
      obtain rfl : place = location := lowerStatementNode_failsAt location value _ h
      exact ⟨construct, lowerStatementNode_eq_unsupported.mp h⟩
    · rintro ⟨construct, h⟩
      exact ⟨location, construct, lowerStatementNode_eq_unsupported.mpr h⟩
  refine ⟨?_, hunsupported, fun construct => lowerStatementNode_eq_unsupported.mpr, ?_,
    lowerStatementNode_failsAt location value⟩
  · rintro ⟨operator, l, r⟩
    rw [lowerStatementNode_eq_ok]
    constructor
    · rintro ⟨left, right, hreturns, hl, hr⟩
      exact ⟨operator, l, r, left, right, hreturns, hl, hr, rfl⟩
    · rintro ⟨_, _, _, left, right, hreturns, hl, hr, ⟨⟩⟩
      exact ⟨left, right, hreturns, hl, hr⟩
  · rw [reportsMalformed_iff, hunsupported, exists_lowerStatementNode]

/-- Of an operand that is no identifier and a missing one the first is reported, and a missing
operator before both. -/
theorem lowerStatementNode_language_unnamed :
    let location : Location := .functionDeclaration (some "f")
    let left : Members := [("object", .null), ("type", .text "MemberExpression")]
    let statement (operator : Json) : Json := .object
      [("argument", .object [("left", .object left), ("operator", operator),
          ("type", .text "BinaryExpression")]),
        ("type", .text "ReturnStatement")]
    Source.Statement.Unsupported (statement (.text "+")) (.operand "MemberExpression") ∧
      lowerStatementNode location (statement (.text "+")) =
        .error (.unsupported location (.operand "MemberExpression")) ∧
      lowerStatementNode location (statement .null) =
        .error (.malformed location (.memberNotText "operator" .null)) ∧
      (Failure.malformed location (.memberNotText "operator" .null)).location = location := by
  intro location left statement
  have hforeign : IsForeign left "MemberExpression" := ⟨fun _ => nofun, rfl, by decide⟩
  have hunsupported : Source.Statement.Unsupported (statement (.text "+"))
      (.operand "MemberExpression") :=
    .left ⟨_, ⟨_, rfl, rfl, rfl⟩, rfl, rfl, rfl⟩ hforeign
  have hmalformed : lowerStatementNode location (statement .null) =
      .error (.malformed location (.memberNotText "operator" .null)) := rfl
  obtain ⟨-, -, hrefused, -, -⟩ := lowerStatementNode_language location (statement (.text "+"))
  obtain ⟨-, -, -, -, hlocation⟩ := lowerStatementNode_language location (statement .null)
  exact ⟨hunsupported, hrefused _ hunsupported, hmalformed, hlocation _ hmalformed⟩

end ContractLowering
