import ContractLowering.Proofs.Json.Decoder
import ContractLowering.Proofs.Lowering.Correspondence
import ContractLowering.Proofs.Source.Relevance
import Mathlib.Logic.Relation

/-! # Equivalent spellings

Some parts of a contract can be spelt in more than one way: a missing initializer, a body, the name
of a parameter, a number that eight bits hold. Respelling any of them, wherever it stands and
whatever is wrong around it, does not change how the contract is lowered.
-/

namespace ContractLowering

namespace Json

/-- Nodes that differ at most in the member of this name, and there by a given relation. -/
inductive AtMember (name : String) (R : Option Json → Option Json → Prop) : Json → Json → Prop
  | node {first second : Members}
      (rest : ∀ other, other ≠ name → second.get? other = first.get? other)
      (part : R (first.get? name) (second.get? name)) :
      AtMember name R (.object first) (.object second)

/-- Lists that differ in one item, by a given relation. -/
inductive AtItem (R : Json → Json → Prop) : Option Json → Option Json → Prop
  | array {item other : Json} (before after : List Json) (h : R item other) :
      AtItem R (some (.array (before ++ item :: after))) (some (.array (before ++ other :: after)))

end Json

open Json (AtMember AtItem)

namespace Source

/-- Two numbers of one value that eight bits hold. -/
inductive ValueRespells : Option Json → Option Json → Prop
  | number {first second : Number} {n : ℕ} (first_eq : first.value = n)
      (second_eq : second.value = n) (range : n ≤ 255) :
      ValueRespells (some (.number first)) (some (.number second))

/-- An initializer that is missing or `null`, or a call with another spelling of an argument. -/
inductive InitializerRespells : Option Json → Option Json → Prop
  | missing {first second : Option Json} (hfirst : given? first = none)
      (hsecond : given? second = none) : InitializerRespells first second
  | call {first second : Json}
      (h : AtMember "arguments" (AtItem (AtMember "value" ValueRespells)) first second) :
      InitializerRespells (some first) (some second)

/-- One name, as a text or in a node. -/
inductive NameRespells : Option Json → Option Json → Prop
  | name {first second : Json} {name : String} (hfirst : Function.SpellsName first name)
      (hsecond : Function.SpellsName second name) : NameRespells (some first) (some second)

/-- The same statements: in a list or in a block, or none at all. -/
inductive BodyRespells : Option Json → Option Json → Prop
  | statements {first second : Option Json} {statements : List Json}
      (hfirst : Function.SpellsBody first statements)
      (hsecond : Function.SpellsBody second statements) : BodyRespells first second

/-- Elements that differ in the spelling of one part. -/
inductive ElementRespells : Json → Json → Prop
  | declarator {first second : Json}
      (h : AtMember "declarations" (AtItem (AtMember "initializer" InitializerRespells))
        first second) :
      ElementRespells first second
  | parameter {first second : Json}
      (h : AtMember "params" (AtItem (AtMember "name" NameRespells)) first second) :
      ElementRespells first second
  | body {first second : Json} (h : AtMember "body" BodyRespells first second) :
      ElementRespells first second

/-- Contracts that differ in the spelling of one part. -/
inductive Contract.Respells : Contract → Contract → Prop
  | element {element other : Json} (name : String) (before after : List Json)
      (h : ElementRespells element other) :
      Respells ⟨name, before ++ element :: after⟩ ⟨name, before ++ other :: after⟩

end Source

section Contexts

variable {name : String} {R : Json → Json → Prop}

/-- Nodes that differ in one member are alike if members that differ there are. -/
theorem Json.AtMember.nodeAlike {P : Option Json → Option Json → Prop}
    {S : Members → Members → Prop} {first second : Json} (h : AtMember name P first second)
    (hmembers : ∀ first second : Members,
      (∀ other, other ≠ name → second.get? other = first.get? other) →
      P (first.get? name) (second.get? name) → S first second) : NodeAlike S first second := by
  cases h with
  | node hrest hpart => exact .made (hmembers _ _ hrest hpart)

theorem forall₂_replace {α : Type} {R : α → α → Prop} (hR : ∀ item, R item item) {item other : α}
    (before after : List α) (h : R item other) :
    List.Forall₂ R (before ++ item :: after) (before ++ other :: after) :=
  List.rel_append (List.forall₂_same.mpr fun item _ => hR item)
    (.cons h (List.forall₂_same.mpr fun item _ => hR item))

theorem Json.AtItem.alikeAt {S : Json → Json → Prop} {first second : Members}
    (h : AtItem R (first.get? name) (second.get? name)) (hS : ∀ item, S item item)
    (himp : ∀ item other, R item other → S item other) :
    Members.AlikeAt (ItemsAlike S) name first second := by
  unfold Members.AlikeAt
  generalize first.get? name = part, second.get? name = other at h ⊢
  cases h with
  | array before after h => exact .some (.made (forall₂_replace hS before after (himp _ _ h)))

end Contexts

namespace Source

open Members (AlikeAt)
open Json (ItemsAlike keepsRead_id)

variable {first second : Json}

theorem argumentAlike_of_respells (h : AtMember "value" ValueRespells first second) :
    ArgumentAlike first second := by
  refine h.nodeAlike fun members others _ hvalue => ?_
  generalize hpart : members.get? "value" = part, hother : others.get? "value" = other at hvalue
  cases hvalue with
  | number hfirst hsecond hrange =>
    rw [Argument.ofNode_eq_number.mpr hpart, Argument.ofNode_eq_number.mpr hother]
    exact .number hfirst hsecond hrange

theorem initializerAlike_of_respells
    (h : AtMember "arguments" (AtItem (AtMember "value" ValueRespells)) first second) :
    InitializerAlike first second :=
  h.nodeAlike fun _ _ hrest harguments =>
    { kind := .of_eq keepsRead_id.textAlike (hrest _ (by decide))
      text := .of_eq keepsRead_id.textAlike (hrest _ (by decide))
      boolean := .of_eq keepsRead_id.booleanAlike (hrest _ (by decide))
      callee := .of_eq keepsRead_id.identifierAlike (hrest _ (by decide))
      arguments := harguments.alikeAt keepsRead_id.argumentAlike fun _ _ =>
        argumentAlike_of_respells }

theorem declaratorAlike_of_respells (h : AtMember "initializer" InitializerRespells first second) :
    DeclaratorAlike id first second := by
  refine h.nodeAlike fun members others hrest hinitializer => ⟨?_, ?_⟩
  · exact .of_eq keepsRead_id.identifierAlike (hrest _ (by decide))
  · generalize members.get? "initializer" = part, others.get? "initializer" = other at hinitializer
    cases hinitializer with
    | missing hfirst hsecond =>
      rw [hfirst, hsecond]
      exact .none
    | call hcall =>
      have halike := initializerAlike_of_respells hcall
      cases hcall with
      | node => exact .some halike

theorem parameterAlike_of_respells (h : AtMember "name" NameRespells first second) :
    ParameterAlike id first second := by
  refine h.nodeAlike fun members others _ hname => ?_
  unfold AlikeAt
  generalize members.get? "name" = part, others.get? "name" = other at hname
  cases hname with
  | name hfirst hsecond => exact .some (.spelt hfirst hsecond)

section Unchanged

variable {members others : Members}

/-- Declarations that stay are alike, and so are the parameters and the body of a function. -/
theorem declarationsAlike_of_eq (h : others.get? "declarations" = members.get? "declarations") :
    AlikeAt (ItemsAlike (DeclaratorAlike id)) "declarations" members others :=
  .of_eq (fun items => keepsRead_id.itemsAlike items keepsRead_id.declaratorAlike) h

theorem parametersAlike_of_eq (h : others.get? "params" = members.get? "params") :
    AlikeAt (ItemsAlike (ParameterAlike id)) "params" members others :=
  .of_eq (fun items => keepsRead_id.itemsAlike items keepsRead_id.parameterAlike) h

theorem bodyAlike_of_eq (h : others.get? "body" = members.get? "body") :
    BodyAlike id (members.get? "body") (others.get? "body") := by
  have hbody := keepsRead_id.bodyAlike (members.get? "body")
  rw [Option.map_id, id] at hbody
  rwa [h]

end Unchanged

theorem elementAlike_of_respells (h : ElementRespells first second) :
    ElementAlike id first second := by
  cases h with
  | declarator h =>
    refine h.nodeAlike fun members others hrest hdeclarations => ⟨?_, fun _ => ?_, fun _ => ?_⟩
    · exact .of_eq keepsRead_id.textAlike (hrest _ (by decide))
    · exact hdeclarations.alikeAt keepsRead_id.declaratorAlike fun _ _ =>
        declaratorAlike_of_respells
    · exact ⟨.of_eq keepsRead_id.identifierAlike (hrest _ (by decide)),
        parametersAlike_of_eq (hrest _ (by decide)), bodyAlike_of_eq (hrest _ (by decide))⟩
  | parameter h =>
    refine h.nodeAlike fun members others hrest hparameters => ⟨?_, fun _ => ?_, fun _ => ?_⟩
    · exact .of_eq keepsRead_id.textAlike (hrest _ (by decide))
    · exact declarationsAlike_of_eq (hrest _ (by decide))
    · exact ⟨.of_eq keepsRead_id.identifierAlike (hrest _ (by decide)),
        hparameters.alikeAt keepsRead_id.parameterAlike fun _ _ => parameterAlike_of_respells,
        bodyAlike_of_eq (hrest _ (by decide))⟩
  | body h =>
    refine h.nodeAlike fun members others hrest hbody => ⟨?_, fun _ => ?_, fun _ => ?_⟩
    · exact .of_eq keepsRead_id.textAlike (hrest _ (by decide))
    · exact declarationsAlike_of_eq (hrest _ (by decide))
    · refine ⟨.of_eq keepsRead_id.identifierAlike (hrest _ (by decide)),
        parametersAlike_of_eq (hrest _ (by decide)), ?_⟩
      cases hbody with
      | statements hfirst hsecond =>
        exact .spelt hfirst hsecond
          (List.forall₂_same.mpr fun item _ => keepsRead_id.statementAlike item)

end Source

/-- Respelling parts of a contract, any number of them, does not change what it is lowered to. -/
theorem lower_respelt {source other : Source.Contract}
    (h : Relation.EqvGen Source.Contract.Respells source other) (schema : Schema)
    (options : Options) : lower schema options other = lower schema options source := by
  induction h with
  | rel _ _ hstep =>
    obtain ⟨name, before, after, helement⟩ := hstep
    exact lower_eq_of_alike (forall₂_replace Json.keepsRead_id.elementAlike before after
      (Source.elementAlike_of_respells helement)) schema options
  | refl _ => rfl
  | symm _ _ _ ih => exact ih.symm
  | trans _ _ _ _ _ ih₁ ih₂ => exact ih₂.trans ih₁

/-- A zero with and without a sign in a declarator that has no name, a parameter with two names of
one function that has no body. -/
theorem lower_respelt_zero :
    let zero : Double := ⟨true, .zero⟩
    let identifier (name : String) : Json := .object [("name", .text name)]
    let declaration (number : Number) : Json := .object [("type", .text "VariableStatement"),
      ("declarations", .array [.object [("initializer", .object [("type", .text "CallExpression"),
        ("callee", identifier "u8"),
        ("arguments", .array [.object [("value", .number number)]])])]])]
    let function (name : Json) (later : Members) : Json := .object
      ([("type", .text "FunctionDeclaration"), ("name", identifier "f"),
        ("params", .array [.object [("name", name)]])] ++ later)
    let source : Source.Contract := ⟨"C", [declaration (.integer 0), function (.text "p") []]⟩
    let other : Source.Contract := ⟨"C", [declaration (.double zero),
      function (identifier "p") [("body", .object [("body", .array [])])]]⟩
    Relation.EqvGen Source.Contract.Respells source other ∧
      ∀ schema options, lower schema options other = lower schema options source := by
  intro zero identifier declaration function source other
  have hzero : (Number.double zero).value = (0 : ℕ) :=
    Number.toNat?_eq_some_iff.mp (by decide +kernel)
  have hnumber : Source.ElementRespells (declaration (.integer 0)) (declaration (.double zero)) :=
    .declarator (.node (fun other h => by simp [h.symm]) (.array [] []
      (.node (fun other h => by simp [h.symm]) (.call
        (.node (fun other h => by simp [h.symm]) (.array [] []
          (.node (fun other h => by simp [h.symm]) (.number rfl hzero (Nat.zero_le _)))))))))
  have hname : Source.ElementRespells (function (.text "p") []) (function (identifier "p") []) :=
    .parameter (.node (fun other h => by simp [h.symm]) (.array [] []
      (.node (fun other h => by simp [h.symm]) (.name (.text "p") (.identifier rfl)))))
  have hbody : Source.ElementRespells (function (identifier "p") [])
      (function (identifier "p") [("body", .object [("body", .array [])])]) :=
    .body (.node (fun other h => by simp [h.symm]) (.statements .missing (.block rfl)))
  have hrespelt : Relation.EqvGen Source.Contract.Respells source other := by
    refine .trans _ _ _ (.rel _ _ (.element "C" [] _ hnumber)) ?_
    refine .trans _ _ _ (.rel _ _ (.element "C" [_] [] hname)) ?_
    exact .rel _ _ (.element "C" [_] [] hbody)
  exact ⟨hrespelt, lower_respelt hrespelt⟩

end ContractLowering
