import ContractLowering.Proofs.Source.Likeness

/-! # What readers look at

Readers look for members of few names, ask texts, booleans and numbers for their value, and lists
for their items. A change of values that keeps all this is not seen: every node is alike with the
changed one.
-/

namespace ContractLowering

namespace Json

/-- The names of the members that some reader looks for. -/
def readNames : List String :=
  ["name", "body", "type", "declarations", "id", "initializer", "value", "callee", "arguments",
    "params", "argument", "operator", "left", "right"]

/-- Members whose values, where some reader looks for them, are changed and not more. -/
def KeptMembers (f : Json → Json) (first second : Members) : Prop :=
  ∀ name ∈ readNames, second.get? name = (first.get? name).map f

/-- A change that keeps what readers look at. -/
structure KeepsRead (f : Json → Json) : Prop where
  null : f null = Json.null
  boolean (value : Bool) : f (boolean value) = Json.boolean value
  number (value : Number) : f (number value) = Json.number value
  text (value : String) : f (text value) = Json.text value
  array (items : List Json) : f (array items) = Json.array (items.map f)
  object (members : Members) :
    ∃ others, f (object members) = Json.object others ∧ KeptMembers f members others

theorem keepsRead_id : KeepsRead id where
  null := rfl
  boolean _ := rfl
  number _ := rfl
  text _ := rfl
  array items := by rw [List.map_id, id]
  object members := ⟨members, rfl, fun name _ => by rw [Option.map_id, id]⟩

section Values

variable {f : Json → Json} (h : KeepsRead f) (value : Json)

theorem KeptMembers.alikeAt {R : Json → Json → Prop} {name : String} {first second : Members}
    (hmembers : KeptMembers f first second) (hname : name ∈ readNames)
    (hR : ∀ value : Json, R value (f value)) : Members.AlikeAt R name first second :=
  .of_map hR (hmembers name hname)

include h

theorem KeepsRead.shape : (f value).shape = value.shape := by
  cases value with
  | null => rw [h.null]
  | boolean value => rw [h.boolean]
  | number value => rw [h.number]
  | text value => rw [h.text]
  | array items => rw [h.array]; rfl
  | object members =>
    obtain ⟨others, hothers, _⟩ := h.object members
    rw [hothers]
    rfl

theorem KeepsRead.textAlike : TextAlike id value (f value) := by
  cases value with
  | text value =>
    rw [h.text]
    exact .made rfl
  | _ => exact .of_shape (fun _ => rfl) (h.shape _) nofun

theorem KeepsRead.booleanAlike : Alike Json.boolean Eq value (f value) := by
  cases value with
  | boolean value =>
    rw [h.boolean]
    exact .made rfl
  | _ => exact .of_shape (fun _ => rfl) (h.shape _) nofun

theorem KeepsRead.itemsAlike {R : Json → Json → Prop} (hR : ∀ item, R item (f item)) :
    ItemsAlike R value (f value) := by
  cases value with
  | array items =>
    rw [h.array]
    exact .made (forall₂_map hR items)
  | _ => exact .of_shape (fun _ => rfl) (h.shape _) nofun

theorem KeepsRead.nodeAlike {R : Members → Members → Prop}
    (hR : ∀ first second, KeptMembers f first second → R first second) :
    NodeAlike R value (f value) := by
  cases value with
  | object members =>
    obtain ⟨others, hothers, hmembers⟩ := h.object members
    rw [hothers]
    exact .made (hR _ _ hmembers)
  | _ => exact .of_shape (fun _ => rfl) (h.shape _) nofun

end Values

end Json

namespace Source

open Json (KeptMembers ItemsAlike NodeAlike)
open Members (AlikeAt)

variable {f : Json → Json}

theorem Argument.ofNode_kept {first second : Members} (h : Json.KeepsRead f)
    (hmembers : KeptMembers f first second) : ofNode second = ofNode first := by
  have hkind := Members.kind?_eq (hmembers.alikeAt (by decide) h.textAlike)
  rw [ofNode, ofNode, hmembers "value" (by decide), hkind]
  rcases first.get? "value" with _ | value
  · rfl
  · cases value with
    | null => rw [Option.map_some, h.null]
    | boolean value => rw [Option.map_some, h.boolean]
    | number value => rw [Option.map_some, h.number]
    | text value => rw [Option.map_some, h.text]
    | array items => rw [Option.map_some, h.array]
    | object members =>
      obtain ⟨others, hothers, _⟩ := h.object members
      rw [Option.map_some, hothers]

end Source

section Nodes

open Source
open Json (KeptMembers ItemsAlike NodeAlike)
open Members (AlikeAt)

namespace Json.KeepsRead

variable {f : Json → Json} (h : KeepsRead f) (value : Json)

include h

theorem identifierAlike : IdentifierAlike id value (f value) :=
  h.nodeAlike value fun _ _ hmembers => hmembers.alikeAt (by decide) h.textAlike

theorem argumentAlike : ArgumentAlike value (f value) := by
  refine h.nodeAlike value fun _ _ hmembers => ?_
  rw [Argument.ofNode_kept h hmembers]
  exact .same _

theorem initializerAlike : InitializerAlike value (f value) :=
  h.nodeAlike value fun _ _ hmembers =>
    { kind := hmembers.alikeAt (by decide) h.textAlike
      text := hmembers.alikeAt (by decide) h.textAlike
      boolean := hmembers.alikeAt (by decide) h.booleanAlike
      callee := hmembers.alikeAt (by decide) h.identifierAlike
      arguments := hmembers.alikeAt (by decide) fun items => h.itemsAlike items h.argumentAlike }

theorem givenAlike (part : Option Json) :
    Option.Rel InitializerAlike (given? part) (given? (part.map f)) := by
  rcases part with _ | value
  · exact .none
  · have halike := h.initializerAlike value
    have hshape := h.shape value
    rw [Option.map_some]
    generalize f value = other at halike hshape ⊢
    cases value <;> cases other <;> cases hshape
    · exact .none
    all_goals exact .some halike

theorem declaratorAlike : DeclaratorAlike id value (f value) := by
  refine h.nodeAlike value fun members others hmembers => ⟨?_, ?_⟩
  · exact hmembers.alikeAt (by decide) h.identifierAlike
  · rw [hmembers "initializer" (by decide)]
    exact h.givenAlike _

theorem operandAlike : OperandAlike id value (f value) :=
  h.nodeAlike value fun _ _ hmembers =>
    ⟨hmembers.alikeAt (by decide) h.textAlike, hmembers.alikeAt (by decide) h.textAlike⟩

theorem returnedAlike : NodeAlike (ReturnedMembersAlike id) value (f value) :=
  h.nodeAlike value fun _ _ hmembers =>
    { kind := hmembers.alikeAt (by decide) h.textAlike
      binary := fun _ =>
        { operator := hmembers.alikeAt (by decide) h.textAlike
          left := hmembers.alikeAt (by decide) h.operandAlike
          right := hmembers.alikeAt (by decide) h.operandAlike } }

theorem statementAlike : StatementAlike id value (f value) :=
  h.nodeAlike value fun _ _ hmembers =>
    { kind := hmembers.alikeAt (by decide) h.textAlike
      returned := fun _ => hmembers.alikeAt (by decide) h.returnedAlike }

theorem parameterNameAlike : ParameterNameAlike id value (f value) := by
  have halike := h.identifierAlike value
  have hshape := h.shape value
  cases value with
  | text name =>
    rw [h.text]
    exact .spelt (.text name) (.text name)
  | _ => exact .other halike nofun fun name hname => by rw [hname] at hshape; exact nomatch hshape

theorem parameterAlike : ParameterAlike id value (f value) :=
  h.nodeAlike value fun _ _ hmembers => hmembers.alikeAt (by decide) h.parameterNameAlike

theorem bodyAlike (part : Option Json) : BodyAlike id part (part.map f) := by
  have hblock (value : Json) :
      NodeAlike (AlikeAt (ItemsAlike (StatementAlike id)) "body") value (f value) :=
    h.nodeAlike value fun _ _ hmembers => hmembers.alikeAt (by decide) fun items =>
      h.itemsAlike items h.statementAlike
  rcases part with _ | value
  · exact .spelt .missing .missing .nil
  · cases value with
    | null =>
      rw [Option.map_some, h.null]
      exact .spelt .null .null .nil
    | array statements =>
      rw [Option.map_some, h.array]
      exact .spelt (.list _) (.list _) (forall₂_map h.statementAlike statements)
    | _ => exact .other (hblock _) nofun nofun

theorem functionAlike {first second : Members} (hmembers : KeptMembers f first second) :
    FunctionMembersAlike id first second where
  identifier := hmembers.alikeAt (by decide) h.identifierAlike
  parameters := hmembers.alikeAt (by decide) fun items => h.itemsAlike items h.parameterAlike
  body := by
    rw [hmembers "body" (by decide)]
    exact h.bodyAlike _

theorem elementAlike : ElementAlike id value (f value) :=
  h.nodeAlike value fun _ _ hmembers =>
    { kind := hmembers.alikeAt (by decide) h.textAlike
      declarations := fun _ => hmembers.alikeAt (by decide) fun items =>
        h.itemsAlike items h.declaratorAlike
      function := fun _ => h.functionAlike hmembers }

end Json.KeepsRead

end Nodes

end ContractLowering
