import ContractLowering.Proofs.Json.Decoder
import ContractLowering.Proofs.Lowering.Correspondence
import ContractLowering.Proofs.Source.Relevance

/-! # Renaming

A renaming changes the names in the body of a contract, wherever texts stand for them: those of
declarators, functions, parameters and the operands of a returned expression. Nothing else in the
body is touched. Renaming a contract and its schema so that names stay apart renames the outcome of
a pass.
-/

namespace ContractLowering

namespace Json

def mapText (f : String → String) : Json → Json
  | text value => text (f value)
  | value => value

def mapItems (f : Json → Json) : Json → Json
  | array items => array (items.map f)
  | value => value

def mapNode (f : Members → Members) : Json → Json
  | object members => object (f members)
  | value => value

section Alike

variable (value : Json)

theorem textAlike_mapText (r : String → String) : TextAlike r value (value.mapText r) := by
  cases value with
  | text name => exact .made rfl
  | _ => exact .other rfl nofun nofun

theorem itemsAlike_mapItems {R : Json → Json → Prop} {f : Json → Json}
    (h : ∀ item, R item (f item)) : ItemsAlike R value (value.mapItems f) := by
  cases value with
  | array items => exact .made (forall₂_map h items)
  | _ => exact .other rfl nofun nofun

theorem nodeAlike_mapNode {R : Members → Members → Prop} {f : Members → Members}
    (h : ∀ members, R members (f members)) : NodeAlike R value (value.mapNode f) := by
  cases value with
  | object members => exact .made (h members)
  | _ => exact .other rfl nofun nofun

end Alike

end Json

namespace Members

/-- Change the value of every member of this name. -/
def mapAt (name : String) (f : Json → Json) (members : Members) : Members :=
  members.map fun member => if member.1 = name then (member.1, f member.2) else member

/-- Change a node of this kind, and no other. -/
def mapOfKind (kind : String) (f : Members → Members) (members : Members) : Members :=
  if members.kind? = some kind then f members else members

section Lookup

variable (name : String) (f : Json → Json) (members : Members)

@[simp]
theorem get?_mapAt : (members.mapAt name f).get? name = (members.get? name).map f := by
  induction members with
  | nil => rfl
  | cons member members ih =>
    rw [mapAt] at ih
    by_cases h : member.1 = name <;> simp [mapAt, h, ih]

@[simp]
theorem get?_mapAt_of_ne {other : String} (hother : other ≠ name) :
    (members.mapAt name f).get? other = members.get? other := by
  induction members with
  | nil => rfl
  | cons member members ih =>
    rw [mapAt] at ih
    by_cases h : member.1 = name <;> simp [mapAt, h, hother.symm, ih]

end Lookup

end Members

open Json (NodeAlike ItemsAlike mapText mapItems mapNode textAlike_mapText itemsAlike_mapItems
  nodeAlike_mapNode keepsRead_id)
open Members (mapAt mapOfKind AlikeAt)

namespace Source

variable (r : String → String)

section Changes

def renameIdentifier : Json → Json :=
  mapNode (mapAt "name" (mapText r))

def renameDeclarator : Json → Json :=
  mapNode (mapAt "id" (renameIdentifier r))

/-- The name of a parameter, which is a text or stands in a node. -/
def renameParameterName : Json → Json
  | .text name => .text (r name)
  | value => renameIdentifier r value

def renameParameter : Json → Json :=
  mapNode (mapAt "name" (renameParameterName r))

def renameOperands (members : Members) : Members :=
  (members.mapAt "left" (renameIdentifier r)).mapAt "right" (renameIdentifier r)

/-- Only a return of a binary expression has operands with names. -/
def renameStatement : Json → Json :=
  mapNode (mapOfKind "ReturnStatement"
    (mapAt "argument" (mapNode (mapOfKind "BinaryExpression" (renameOperands r)))))

/-- The statements of a list or of a block. -/
def renameBody : Json → Json
  | .array statements => .array (statements.map (renameStatement r))
  | value => mapNode (mapAt "body" (mapItems (renameStatement r))) value

def renameFunction (members : Members) : Members :=
  ((members.mapAt "name" (renameIdentifier r)).mapAt "params" (mapItems (renameParameter r))).mapAt
    "body" (renameBody r)

def renameElement : Json → Json :=
  mapNode fun members =>
    if members.kind? = some "FunctionDeclaration" then renameFunction r members
    else mapOfKind "VariableStatement"
      (mapAt "declarations" (mapItems (renameDeclarator r))) members

/-- The contract keeps its own name. -/
def Contract.rename (contract : Contract) : Contract :=
  ⟨contract.name, contract.body.map (renameElement r)⟩

end Changes

section Alike

variable (value : Json)

theorem renameIdentifier_alike : IdentifierAlike r value (renameIdentifier r value) :=
  nodeAlike_mapNode value fun _ => .of_map (fun part => textAlike_mapText part r) (by simp)

theorem renameDeclarator_alike : DeclaratorAlike r value (renameDeclarator r value) := by
  refine nodeAlike_mapNode value fun members => ⟨?_, ?_⟩
  · exact .of_map (renameIdentifier_alike r) (by simp)
  · rw [Members.get?_mapAt_of_ne _ _ _ (by decide)]
    have hgiven := keepsRead_id.givenAlike (members.get? "initializer")
    rwa [Option.map_id] at hgiven

theorem renameParameterName_alike : ParameterNameAlike r value (renameParameterName r value) := by
  cases value with
  | text name => exact .spelt (.text name) (.text (r name))
  | object identifier => exact .other (renameIdentifier_alike r _) nofun nofun
  | _ => exact .other (.other rfl nofun nofun) nofun nofun

theorem renameParameter_alike : ParameterAlike r value (renameParameter r value) :=
  nodeAlike_mapNode value fun _ => .of_map (renameParameterName_alike r) (by simp)

theorem renameOperand_alike : OperandAlike r value (renameIdentifier r value) :=
  nodeAlike_mapNode value fun _ =>
    ⟨.of_map (fun part => textAlike_mapText part r) (by simp),
      .of_eq keepsRead_id.textAlike (by simp)⟩

theorem renameOperands_alike (members : Members) :
    BinaryMembersAlike r members (renameOperands r members) where
  operator := .of_eq keepsRead_id.textAlike (by simp [renameOperands])
  left := .of_map (renameOperand_alike r) (by simp [renameOperands])
  right := .of_map (renameOperand_alike r) (by simp [renameOperands])

/-- A change that keeps the kind of a node can depend on this kind. -/
theorem kind_mapOfKind {kind : String} {f : Members → Members} (members : Members)
    (h : (f members).get? "type" = members.get? "type") :
    (mapOfKind kind f members).get? "type" = members.get? "type" := by
  unfold mapOfKind
  split_ifs
  · exact h
  · rfl

theorem renameStatement_alike : StatementAlike r value (renameStatement r value) := by
  refine nodeAlike_mapNode value fun members => ⟨?_, fun hreturn => ?_⟩
  · exact .of_eq keepsRead_id.textAlike (kind_mapOfKind members (by simp))
  · rw [mapOfKind, if_pos hreturn]
    refine .of_map (fun argument => ?_) (Members.get?_mapAt _ _ _)
    refine nodeAlike_mapNode argument fun returned => ⟨?_, fun hbinary => ?_⟩
    · exact .of_eq keepsRead_id.textAlike (kind_mapOfKind returned (by simp [renameOperands]))
    · rw [mapOfKind, if_pos hbinary]
      exact renameOperands_alike r returned

theorem renameBody_alike (part : Option Json) : BodyAlike r part (part.map (renameBody r)) := by
  have hother (value : Json) : NodeAlike (AlikeAt (ItemsAlike (StatementAlike r)) "body") value
      (mapNode (mapAt "body" (mapItems (renameStatement r))) value) :=
    nodeAlike_mapNode value fun _ => .of_map (fun items =>
      itemsAlike_mapItems items (renameStatement_alike r)) (by simp)
  rcases part with _ | value
  · exact .spelt .missing .missing .nil
  · cases value with
    | null => exact .spelt .null .null .nil
    | array statements =>
      exact .spelt (.list _) (.list _) (forall₂_map (renameStatement_alike r) statements)
    | _ => exact .other (hother _) nofun nofun

theorem renameFunction_alike (members : Members) :
    FunctionMembersAlike r members (renameFunction r members) where
  identifier := .of_map (renameIdentifier_alike r) (by simp [renameFunction])
  parameters := .of_map (fun items => itemsAlike_mapItems items (renameParameter_alike r))
    (by simp [renameFunction])
  body := by
    have hbody : (renameFunction r members).get? "body" =
        (members.get? "body").map (renameBody r) := by simp [renameFunction]
    rw [hbody]
    exact renameBody_alike r _

theorem renameElement_alike : ElementAlike r value (renameElement r value) := by
  refine nodeAlike_mapNode value fun members => ⟨?_, fun hvariable => ?_, fun hfunction => ?_⟩
  · refine .of_eq keepsRead_id.textAlike ?_
    split_ifs
    · simp [renameFunction]
    · exact kind_mapOfKind members (by simp)
  · rw [if_neg (by simp [hvariable]), mapOfKind, if_pos hvariable]
    exact .of_map (fun items => itemsAlike_mapItems items (renameDeclarator_alike r)) (by simp)
  · rw [if_pos hfunction]
    exact renameFunction_alike r members

end Alike

end Source

/-- Renaming a contract and its schema, so that names stay apart, renames the outcome: every name
in nodes, in the locations of failures and in the slots of warnings, and nothing else. -/
theorem lower_rename {r : String → String} (hr : Function.Injective r) (schema : Schema)
    (source : Source.Contract) :
    ∃ lowering, lower schema ⟨.permissive, false⟩ source = .ok lowering ∧
      lower (schema.rename r) ⟨.permissive, false⟩ (source.rename r) = .ok (lowering.rename r) := by
  refine ⟨_, lower_permissive schema false source, ?_⟩
  rw [lower_permissive]
  have halike := forall₂_map (Source.renameElement_alike r) source.body
  exact congrArg Except.ok (gathered_rename hr schema source.name halike)

/-- A variable and a function, each of which has a part that the schema does not know. -/
theorem lower_rename_underscored :
    let r (name : String) : String := name ++ "_"
    let identifier (name : String) : Json := .object [("name", .text name)]
    let sum : Json := .object [("type", .text "BinaryExpression"), ("operator", .text "+"),
      ("left", identifier "a"), ("right", identifier "b")]
    let function : Json := .object [("type", .text "FunctionDeclaration"),
      ("name", identifier "f"),
      ("params", .array [.object [("name", .text "a")], .object [("name", identifier "b")]]),
      ("body", .array [.object [("type", .text "ReturnStatement"), ("argument", sum)]])]
    let declaration : Json := .object [("type", .text "VariableStatement"),
      ("declarations", .array [.object [("id", identifier "x")], .object [("id", identifier "f")]])]
    let schema : Schema :=
      ⟨[⟨"x", "u8", false⟩], [⟨"f", [], some "u8", [⟨"a", "u8"⟩], []⟩], []⟩
    let source : Source.Contract := ⟨"C", [declaration, function]⟩
    Function.Injective r ∧ ∃ lowering, lower schema ⟨.permissive, false⟩ source = .ok lowering ∧
      lowering.warnings = [.unresolved (.state "f"), .unresolved (.parameter "f" "b")] ∧
      lower (schema.rename r) ⟨.permissive, false⟩ (source.rename r) = .ok (lowering.rename r) ∧
      (lowering.rename r).warnings =
        [.unresolved (.state "f_"), .unresolved (.parameter "f_" "b_")] := by
  intro r identifier sum function declaration schema source
  have hr : Function.Injective r := fun _ _ => String.append_left_inj _ |>.mp
  obtain ⟨lowering, hlower, hrenamed⟩ := lower_rename hr schema source
  obtain rfl := lower_eq_ok hlower
  exact ⟨hr, _, hlower, by decide, hrenamed, by decide⟩

end ContractLowering
