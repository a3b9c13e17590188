import ContractLowering.Proofs.Source.Rejection
import ContractLowering.Source.Statement

/-! # How statements are spelt

A returned binary expression has an operator and two nodes for operands. It is read exactly when
both of them have names, and then the kinds of the operands are not looked at. Of operands without
a name the first one is refused for its kind, and statements and returned nodes of other kinds are
read without a look at what is in them.
-/

namespace ContractLowering.Source

/-- A value that returns a binary expression over two nodes. -/
def ReturnsBinary (value : Json) (operator : String) (left right : Members) : Prop :=
  ∃ members returned : Members, value = .object members ∧
    members.get? "type" = some (.text "ReturnStatement") ∧
    members.get? "argument" = some (.object returned) ∧
    returned.get? "type" = some (.text "BinaryExpression") ∧
    returned.get? "operator" = some (.text operator) ∧
    returned.get? "left" = some (.object left) ∧
    returned.get? "right" = some (.object right)

/-- A value is at most one binary expression. -/
theorem ReturnsBinary.unique {value : Json} {operator other : String}
    {left right first second : Members} (h : ReturnsBinary value operator left right)
    (h' : ReturnsBinary value other first second) :
    operator = other ∧ left = first ∧ right = second := by
  obtain ⟨members, returned, rfl, -, hreturned, -, hoperator, hleft, hright⟩ := h
  obtain ⟨_, returned', ⟨⟩, -, hreturned', -, hother, hfirst, hsecond⟩ := h'
  obtain rfl : returned = returned' := by simpa [hreturned] using hreturned'
  simp_all

/-- A statement that returns a node. -/
def Returns (value : Json) (returned : Members) : Prop :=
  ∃ members : Members, value = .object members ∧
    members.get? "type" = some (.text "ReturnStatement") ∧
    members.get? "argument" = some (.object returned)

/-- A statement that returns a binary expression with a node on the left, whatever is on the
right. -/
def ReturnsLeft (value : Json) (operator : String) (left : Members) : Prop :=
  ∃ returned : Members, Returns value returned ∧
    returned.get? "type" = some (.text "BinaryExpression") ∧
    returned.get? "operator" = some (.text operator) ∧ returned.get? "left" = some (.object left)

/-- A node without a name whose kind says that it is no identifier. -/
def IsForeign (operand : Members) (kind : String) : Prop :=
  (∀ name, operand.get? "name" ≠ some (.text name)) ∧
    operand.get? "type" = some (.text kind) ∧ kind ≠ "Identifier"

variable {location : Location}

theorem readOperand_eq_ok {operand : Members} {name : String} :
    readOperand location operand = .ok name ↔ operand.get? "name" = some (.text name) := by
  unfold readOperand
  split
  · simp_all
  · rename_i hunnamed
    constructor
    · intro h
      split at h
      · split at h <;> simp [malformed, unsupported] at h
      · simp [malformed] at h
    · exact fun hname => absurd hname (hunnamed name)

/-- Without a name the kind of an operand decides. -/
theorem readOperand_unnamed {members : Members}
    (h : ∀ name, members.get? "name" ≠ some (.text name)) :
    readOperand location members =
      match members.kind? with
      | some kind =>
        if kind = "Identifier" then malformed location .operandName
        else unsupported location (.operand kind)
      | none => malformed location .operandName := by
  unfold readOperand
  split
  · rename_i name hname
    exact absurd hname (h name)
  · rfl

theorem readOperand_eq_unsupported {operand : Members} {construct : Construct} :
    readOperand location operand = unsupported location construct ↔
      ∃ kind, IsForeign operand kind ∧ construct = .operand kind := by
  by_cases hnamed : ∃ name, operand.get? "name" = some (.text name)
  · obtain ⟨name, hname⟩ := hnamed
    rw [readOperand_eq_ok.mpr hname]
    constructor
    · intro h
      exact nomatch h
    · rintro ⟨kind, hforeign, _⟩
      exact absurd hname (hforeign.1 name)
  · rw [not_exists] at hnamed
    rw [readOperand_unnamed hnamed]
    simp only [IsForeign, ← Members.kind?_eq_some]
    cases operand.kind? with
    | none => simp
    | some kind =>
      by_cases hkind : kind = "Identifier"
      · simp [hkind]
      · simp [hkind, hnamed, eq_comm]

namespace Statement

/-- How a statement is spelt. -/
inductive Spelt : Json → Statement → Prop
  | returnBinary {value : Json} {operator l r : String} {left right : Members}
      (returns : ReturnsBinary value operator left right)
      (left_name : left.get? "name" = some (.text l))
      (right_name : right.get? "name" = some (.text r)) : Spelt value (.returnBinary operator l r)
  | returnOther {value : Json} {returned : Members} {kind : String}
      (returns : Returns value returned) (kind_eq : returned.get? "type" = some (.text kind))
      (other : kind ≠ "BinaryExpression") : Spelt value (.returnOther kind)
  | other {members : Members} {kind : String} (kind_eq : members.get? "type" = some (.text kind))
      (other : kind ≠ "ReturnStatement") : Spelt (.object members) (.other kind)

theorem read_eq_ok {value : Json} {statement : Statement} :
    read location value = .ok statement ↔ Spelt value statement := by
  simp only [read, readReturned, bind_eq_ok, Json.node_eq_ok, Members.kind_eq_ok]
  constructor
  · rintro ⟨members, rfl, kind, hkind, h⟩
    split at h
    · rename_i hreturn
      simp only [bind_eq_ok, Members.node_eq_ok, Members.kind_eq_ok] at h
      obtain ⟨returned, hreturned, found, hfound, h⟩ := h
      split at h
      · rename_i hbinary
        simp only [bind_eq_ok, Members.text_eq_ok, Members.node_eq_ok, readOperand_eq_ok,
          pure_eq_ok] at h
        obtain ⟨operator, hoperator, left, hleft, l, hl, right, hright, r, hr, rfl⟩ := h
        exact .returnBinary ⟨members, returned, rfl, hreturn ▸ hkind, hreturned, hbinary ▸ hfound,
          hoperator, hleft, hright⟩ hl hr
      · rename_i hother
        obtain rfl := pure_eq_ok.mp h
        exact .returnOther ⟨members, rfl, hreturn ▸ hkind, hreturned⟩ hfound hother
    · rename_i hother
      obtain rfl := pure_eq_ok.mp h
      exact .other hkind hother
  · intro h
    cases h with
    | returnBinary hreturns hl hr =>
      obtain ⟨members, returned, rfl, hkind, hreturned, hbinary, hoperator, hleft, hright⟩ :=
        hreturns
      refine ⟨members, rfl, _, hkind, ?_⟩
      rw [if_pos rfl]
      simp only [bind_eq_ok, Members.node_eq_ok, Members.kind_eq_ok]
      refine ⟨returned, hreturned, _, hbinary, ?_⟩
      rw [if_pos rfl]
      simp only [bind_eq_ok, Members.text_eq_ok, Members.node_eq_ok, readOperand_eq_ok, pure_eq_ok]
      exact ⟨_, hoperator, _, hleft, _, hl, _, hright, _, hr, rfl⟩
    | returnOther hreturns hfound hother =>
      obtain ⟨members, rfl, hkind, hreturned⟩ := hreturns
      refine ⟨members, rfl, _, hkind, ?_⟩
      rw [if_pos rfl]
      simp only [bind_eq_ok, Members.node_eq_ok, Members.kind_eq_ok]
      refine ⟨_, hreturned, _, hfound, ?_⟩
      rw [if_neg hother, pure_eq_ok]
    | other hkind hother =>
      refine ⟨_, rfl, _, hkind, ?_⟩
      rw [if_neg hother, pure_eq_ok]

/-- A binary expression is read exactly when it is returned and both operands have names. -/
theorem read_eq_returnBinary {value : Json} {operator l r : String} :
    read location value = .ok (.returnBinary operator l r) ↔
      ∃ left right, ReturnsBinary value operator left right ∧
        left.get? "name" = some (.text l) ∧ right.get? "name" = some (.text r) := by
  rw [read_eq_ok]
  constructor
  · rintro (⟨hreturns, hl, hr⟩ | _ | _)
    exact ⟨_, _, hreturns, hl, hr⟩
  · rintro ⟨left, right, hreturns, hl, hr⟩
    exact .returnBinary hreturns hl hr

theorem readReturned_eq_unsupported {returned : Members} {construct : Construct} :
    readReturned location returned = unsupported location construct ↔
      ∃ (operator : String) (left : Members),
        returned.get? "type" = some (.text "BinaryExpression") ∧
        returned.get? "operator" = some (.text operator) ∧
        returned.get? "left" = some (.object left) ∧
        ((∃ kind, IsForeign left kind ∧ construct = .operand kind) ∨
          ∃ (l : String) (right : Members) (kind : String), left.get? "name" = some (.text l) ∧
            returned.get? "right" = some (.object right) ∧ IsForeign right kind ∧
            construct = .operand kind) := by
  -- the kind, the operator and the nodes only fail as malformed, so an operand is what is left
  rw [readReturned, (Members.kind_failsWith _ _).bind_eq_unsupported]
  simp only [Members.kind_eq_ok]
  constructor
  · rintro ⟨kind, hkind, h⟩
    split at h
    · rename_i hbinary
      obtain ⟨operator, hoperator, h⟩ := (Members.text_failsWith _ _ _).bind_eq_unsupported.mp h
      obtain ⟨left, hleft, h⟩ := (Members.node_failsWith _ _ _).bind_eq_unsupported.mp h
      refine ⟨operator, left, hbinary ▸ hkind, Members.text_eq_ok.mp hoperator,
        Members.node_eq_ok.mp hleft, ?_⟩
      rcases bind_eq_unsupported.mp h with hforeign | ⟨l, hl, h⟩
      · exact .inl (readOperand_eq_unsupported.mp hforeign)
      · obtain ⟨right, hright, h⟩ := (Members.node_failsWith _ _ _).bind_eq_unsupported.mp h
        rcases bind_eq_unsupported.mp h with hforeign | ⟨r, _, h⟩
        · obtain ⟨kind, hforeign, hconstruct⟩ := readOperand_eq_unsupported.mp hforeign
          exact .inr ⟨l, right, kind, readOperand_eq_ok.mp hl, Members.node_eq_ok.mp hright,
            hforeign, hconstruct⟩
        · exact nomatch h
    · exact nomatch h
  · rintro ⟨operator, left, hbinary, hoperator, hleft, h⟩
    refine ⟨_, hbinary, ?_⟩
    rw [if_pos rfl]
    refine (Members.text_failsWith _ _ _).bind_eq_unsupported.mpr
      ⟨operator, Members.text_eq_ok.mpr hoperator, ?_⟩
    refine (Members.node_failsWith _ _ _).bind_eq_unsupported.mpr
      ⟨left, Members.node_eq_ok.mpr hleft, bind_eq_unsupported.mpr ?_⟩
    rcases h with hforeign | ⟨l, right, kind, hl, hright, hforeign, hconstruct⟩
    · exact .inl (readOperand_eq_unsupported.mpr hforeign)
    · refine .inr ⟨l, readOperand_eq_ok.mpr hl, ?_⟩
      refine (Members.node_failsWith _ _ _).bind_eq_unsupported.mpr
        ⟨right, Members.node_eq_ok.mpr hright, bind_eq_unsupported.mpr (.inl ?_)⟩
      exact readOperand_eq_unsupported.mpr ⟨kind, hforeign, hconstruct⟩

/-- Reading a statement is only ever stopped by an unsupported operand. -/
theorem read_eq_unsupported {value : Json} {construct : Construct} :
    read location value = unsupported location construct ↔
      ∃ returned, Returns value returned ∧
        readReturned location returned = unsupported location construct := by
  rw [read, (value.node_failsWith location).bind_eq_unsupported]
  simp only [Json.node_eq_ok, (Members.kind_failsWith _ _).bind_eq_unsupported, Members.kind_eq_ok]
  constructor
  · rintro ⟨members, rfl, kind, hkind, h⟩
    split at h
    · rename_i hreturn
      obtain ⟨returned, hreturned, h⟩ := (Members.node_failsWith _ _ _).bind_eq_unsupported.mp h
      exact ⟨returned, ⟨members, rfl, hreturn ▸ hkind, Members.node_eq_ok.mp hreturned⟩, h⟩
    · exact nomatch h
  · rintro ⟨returned, ⟨members, rfl, hkind, hreturned⟩, h⟩
    refine ⟨members, rfl, _, hkind, ?_⟩
    rw [if_pos rfl]
    exact (Members.node_failsWith _ _ _).bind_eq_unsupported.mpr
      ⟨returned, Members.node_eq_ok.mpr hreturned, h⟩

/-- The construct for which a statement is unsupported, the first one that is met. -/
inductive Unsupported : Json → Construct → Prop
  | statement {members : Members} {kind : String}
      (kind_eq : members.get? "type" = some (.text kind)) (other : kind ≠ "ReturnStatement") :
      Unsupported (.object members) (.node kind)
  | returned {value : Json} {returned : Members} {kind : String} (returns : Returns value returned)
      (kind_eq : returned.get? "type" = some (.text kind)) (other : kind ≠ "BinaryExpression") :
      Unsupported value (.returned kind)
  | left {value : Json} {operator kind : String} {left : Members}
      (returns : ReturnsLeft value operator left) (foreign : IsForeign left kind) :
      Unsupported value (.operand kind)
  | right {value : Json} {operator name kind : String} {left right : Members}
      (returns : ReturnsBinary value operator left right)
      (named : left.get? "name" = some (.text name)) (foreign : IsForeign right kind) :
      Unsupported value (.operand kind)

end Statement

end ContractLowering.Source
