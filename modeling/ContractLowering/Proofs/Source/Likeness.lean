import ContractLowering.Proofs.Decimal.Value
import ContractLowering.Proofs.Source.Agreement
import ContractLowering.Proofs.Source.Statement
import ContractLowering.Proofs.Source.Variable

/-! # Elements that are read alike

A reader looks at few members of a node, and at these only in part. Two nodes are alike when they
agree in this, up to a change of names. There is one such relation for each kind of node, and
readings of nodes that are alike agree, whether they succeed or fail.
-/

namespace ContractLowering.Source

open Json (TextAlike NodeAlike ItemsAlike)
open Members (AlikeAt)

/-- A node whose name is a text. -/
abbrev IdentifierAlike (r : String → String) : Json → Json → Prop :=
  NodeAlike (AlikeAt (TextAlike r) "name")

section Declarators

/-- The same argument, or two numbers of one value that eight bits hold. -/
inductive Argument.Agrees : Argument → Argument → Prop
  | same (argument : Argument) : Agrees argument argument
  | number {first second : Number} {n : ℕ} (first_eq : first.value = n)
      (second_eq : second.value = n) (range : n ≤ 255) : Agrees (.number first) (.number second)

inductive Initializer.Agrees : Initializer → Initializer → Prop
  | same (initializer : Initializer) : Agrees initializer initializer
  | call (callee : String) {arguments others : List Argument}
      (h : List.Forall₂ Argument.Agrees arguments others) :
      Agrees (.call callee arguments) (.call callee others)

structure Variable.Agrees (r : String → String) (first second : Variable) : Prop where
  name : second.name = r first.name
  initializer : Option.Rel Initializer.Agrees first.initializer second.initializer

abbrev ArgumentAlike : Json → Json → Prop :=
  NodeAlike fun first second => (Argument.ofNode first).Agrees (Argument.ofNode second)

/-- The callee of a call is no name that is changed. -/
structure InitializerMembersAlike (first second : Members) : Prop where
  kind : AlikeAt (TextAlike id) "type" first second
  text : AlikeAt (TextAlike id) "value" first second
  boolean : AlikeAt (Json.Alike .boolean Eq) "value" first second
  callee : AlikeAt (IdentifierAlike id) "callee" first second
  arguments : AlikeAt (ItemsAlike ArgumentAlike) "arguments" first second

abbrev InitializerAlike : Json → Json → Prop :=
  NodeAlike InitializerMembersAlike

structure DeclaratorMembersAlike (r : String → String) (first second : Members) : Prop where
  identifier : AlikeAt (IdentifierAlike r) "id" first second
  initializer : Option.Rel InitializerAlike (given? (first.get? "initializer"))
    (given? (second.get? "initializer"))

abbrev DeclaratorAlike (r : String → String) : Json → Json → Prop :=
  NodeAlike (DeclaratorMembersAlike r)

variable {r : String → String} (location : Location) {first second : Json}

theorem Argument.read_agree (h : ArgumentAlike first second) :
    Agree r Argument.Agrees (Argument.read location first)
      (Argument.read (location.rename r) second) := by
  cases h with
  | made hargument =>
    rw [read_object, read_object]
    exact .ok hargument
  | other hshape hfirst hsecond =>
    have hnode := Json.node_agree (r := r) location
      (Json.Alike.other (R := fun _ _ => False) hshape hfirst hsecond)
    exact hnode.bind fun _ _ hfalse => hfalse.elim

theorem Initializer.read_agree (h : InitializerAlike first second) :
    Agree r Initializer.Agrees (Initializer.read location first)
      (Initializer.read (location.rename r) second) := by
  refine (Json.node_agree location h).bind fun members others hmembers => ?_
  refine (Members.kind_agree location hmembers.kind).bind fun kind _ hkind => ?_
  obtain ⟨rfl, _⟩ := hkind
  split_ifs
  · refine (Members.text_agree location hmembers.text).bind fun value _ hvalue => ?_
    rw [hvalue]
    exact .ok (.same _)
  · refine (Members.required_agree location hmembers.boolean).bind fun value other hvalue => ?_
    cases hvalue with
    | made hboolean =>
      rw [hboolean]
      exact .ok (.same _)
    | other hshape hfirst hsecond =>
      split
      · exact absurd rfl (hfirst _)
      · rw [hshape]
        exact .malformed location _
  · refine (Members.node_agree location hmembers.callee).bind fun identifier other hcallee => ?_
    refine (Members.text_agree location hcallee).bind fun callee _ hname => ?_
    refine (Members.sequence_agree location hmembers.arguments).bind fun items others hitems => ?_
    have harguments := Agree.mapM (hitems.imp fun _ _ => Argument.read_agree (r := r) location)
    refine harguments.bind fun arguments others hagree => ?_
    rw [hname]
    exact .ok (.call callee hagree)
  · exact .ok (.same _)

theorem Initializer.readOptional_agree {part other : Option Json}
    (h : Option.Rel InitializerAlike (given? part) (given? other)) :
    Agree r (Option.Rel Initializer.Agrees) (readOptional location part)
      (readOptional (location.rename r) other) := by
  have hread (location : Location) (part : Option Json) : readOptional location part =
      (given? part).elim (.ok none) fun value => some <$> read location value := by
    rcases part with _ | value
    · rfl
    · cases value <;> rfl
  rw [hread, hread]
  generalize given? part = part, given? other = other at h ⊢
  cases h with
  | none => exact .ok .none
  | some hvalues => exact (read_agree location hvalues).map fun _ _ hagree => .some hagree

theorem Variable.read_agree (h : DeclaratorAlike r first second) :
    Agree r (Variable.Agrees r) (Variable.read first) (Variable.read second) := by
  refine (Json.node_agree (.declarator none) h).bind fun members others hmembers => ?_
  refine (Members.node_agree (.declarator none) hmembers.identifier).bind fun _ _ hidentifier => ?_
  refine (Members.text_agree (.declarator none) hidentifier).bind fun name _ hname => ?_
  subst hname
  refine (Initializer.readOptional_agree (.declarator (some name)) hmembers.initializer).bind
    fun _ _ hinitializer => ?_
  exact .ok ⟨rfl, hinitializer⟩

end Declarators

section Statements

def Statement.rename (r : String → String) : Statement → Statement
  | returnBinary operator left right => returnBinary operator (r left) (r right)
  | returnOther kind => returnOther kind
  | other kind => other kind

/-- An operand without a name is judged by its kind. -/
abbrev OperandAlike (r : String → String) : Json → Json → Prop :=
  NodeAlike fun first second =>
    AlikeAt (TextAlike r) "name" first second ∧ AlikeAt (TextAlike id) "type" first second

structure BinaryMembersAlike (r : String → String) (first second : Members) : Prop where
  operator : AlikeAt (TextAlike id) "operator" first second
  left : AlikeAt (OperandAlike r) "left" first second
  right : AlikeAt (OperandAlike r) "right" first second

structure ReturnedMembersAlike (r : String → String) (first second : Members) : Prop where
  kind : AlikeAt (TextAlike id) "type" first second
  binary : first.kind? = some "BinaryExpression" → BinaryMembersAlike r first second

structure StatementMembersAlike (r : String → String) (first second : Members) : Prop where
  kind : AlikeAt (TextAlike id) "type" first second
  returned : first.kind? = some "ReturnStatement" →
    AlikeAt (NodeAlike (ReturnedMembersAlike r)) "argument" first second

abbrev StatementAlike (r : String → String) : Json → Json → Prop :=
  NodeAlike (StatementMembersAlike r)

variable {r : String → String} (location : Location) {first second : Json}

theorem readOperand_agree {members others : Members}
    (hname : AlikeAt (TextAlike r) "name" members others)
    (hkind : AlikeAt (TextAlike id) "type" members others) :
    Agree r (fun name other => other = r name) (readOperand location members)
      (readOperand (location.rename r) others) := by
  have hunnamed (h : ∀ name, members.get? "name" ≠ some (.text name))
      (hother : ∀ name, others.get? "name" ≠ some (.text name)) :
      Agree r (fun name other => other = r name) (readOperand location members)
        (readOperand (location.rename r) others) := by
    rw [readOperand_unnamed h, readOperand_unnamed hother, Members.kind?_eq hkind]
    cases members.kind? with
    | none => exact .malformed location _
    | some kind =>
      simp only
      split_ifs
      · exact .malformed location _
      · exact .unsupported location _
  unfold AlikeAt at hname
  generalize hpart : members.get? "name" = part, hpart' : others.get? "name" = part' at hname
  cases hname with
  | none => exact hunnamed (by simp [hpart]) (by simp [hpart'])
  | some hvalues =>
    cases hvalues with
    | made htexts =>
      rw [readOperand, readOperand, hpart, hpart']
      exact .ok htexts
    | other hshape hfirst hsecond =>
      exact hunnamed (by simpa [hpart] using hfirst) (by simpa [hpart'] using hsecond)

theorem Statement.readReturned_agree {members others : Members}
    (h : ReturnedMembersAlike r members others) :
    Agree r (fun statement other => other = statement.rename r) (readReturned location members)
      (readReturned (location.rename r) others) := by
  refine (Members.kind_agree location h.kind).bind fun kind _ hkind => ?_
  obtain ⟨rfl, hkind⟩ := hkind
  split_ifs with hbinary
  · subst hbinary
    obtain ⟨hoperator, hleft, hright⟩ := h.binary hkind
    refine (Members.text_agree location hoperator).bind fun operator _ hoperators => ?_
    refine (Members.node_agree location hleft).bind fun node _ hnodes => ?_
    refine (readOperand_agree location hnodes.1 hnodes.2).bind fun left _ hlefts => ?_
    refine (Members.node_agree location hright).bind fun node _ hnodes => ?_
    refine (readOperand_agree location hnodes.1 hnodes.2).bind fun right _ hrights => ?_
    rw [hoperators, hlefts, hrights]
    exact .ok rfl
  · exact .ok rfl

theorem Statement.read_agree (h : StatementAlike r first second) :
    Agree r (fun statement other => other = statement.rename r) (Statement.read location first)
      (Statement.read (location.rename r) second) := by
  refine (Json.node_agree location h).bind fun members others hmembers => ?_
  refine (Members.kind_agree location hmembers.kind).bind fun kind _ hkind => ?_
  obtain ⟨rfl, hkind⟩ := hkind
  split_ifs with hreturn
  · subst hreturn
    refine (Members.node_agree location (hmembers.returned hkind)).bind fun _ _ hreturned => ?_
    exact readReturned_agree location hreturned
  · exact .ok rfl

end Statements

section Functions

/-- The name that a parameter gives, as a text or in a node. -/
inductive Function.SpellsName : Json → String → Prop
  | text (name : String) : SpellsName (.text name) name
  | identifier {members : Members} {name : String} (h : members.get? "name" = some (.text name)) :
      SpellsName (.object members) name

/-- The statements that the body of a function gives, as a list or in a block. -/
inductive Function.SpellsBody : Option Json → List Json → Prop
  | missing : SpellsBody none []
  | null : SpellsBody (some .null) []
  | list (statements : List Json) : SpellsBody (some (.array statements)) statements
  | block {block : Members} {statements : List Json}
      (h : block.get? "body" = some (.array statements)) :
      SpellsBody (some (.object block)) statements

structure Function.Agrees (r : String → String) (first second : Function) : Prop where
  name : second.name = r first.name
  parameters : second.parameters = first.parameters.map r
  body : List.Forall₂ (StatementAlike r) first.body second.body

/-- Names that are spelt and correspond, or parts that spell none. -/
inductive ParameterNameAlike (r : String → String) : Json → Json → Prop
  | spelt {first second : Json} {name : String} (hfirst : Function.SpellsName first name)
      (hsecond : Function.SpellsName second (r name)) : ParameterNameAlike r first second
  | other {first second : Json} (h : IdentifierAlike r first second)
      (hfirst : ∀ name, first ≠ .text name) (hsecond : ∀ name, second ≠ .text name) :
      ParameterNameAlike r first second

abbrev ParameterAlike (r : String → String) : Json → Json → Prop :=
  NodeAlike (AlikeAt (ParameterNameAlike r) "name")

/-- Statements that are spelt and correspond, or parts that spell none. -/
inductive BodyAlike (r : String → String) : Option Json → Option Json → Prop
  | spelt {first second : Option Json} {statements others : List Json}
      (hfirst : Function.SpellsBody first statements) (hsecond : Function.SpellsBody second others)
      (h : List.Forall₂ (StatementAlike r) statements others) : BodyAlike r first second
  | other {first second : Json}
      (h : NodeAlike (AlikeAt (ItemsAlike (StatementAlike r)) "body") first second)
      (hnull : first ≠ .null) (harray : ∀ items, first ≠ .array items) :
      BodyAlike r (some first) (some second)

structure FunctionMembersAlike (r : String → String) (first second : Members) : Prop where
  identifier : AlikeAt (IdentifierAlike r) "name" first second
  parameters : AlikeAt (ItemsAlike (ParameterAlike r)) "params" first second
  body : BodyAlike r (first.get? "body") (second.get? "body")

variable {r : String → String} (location : Location) {first second : Json}

/-- The reading of the part that names a parameter. -/
def Function.readName (location : Location) : Json → Except Failure String
  | .text name => .ok name
  | .object identifier => Members.text location identifier "name"
  | value => malformed location (.parameterName value.shape)

theorem Function.readName_spelt {part : Json} {name : String} (h : SpellsName part name) :
    readName location part = .ok name := by
  cases h with
  | text name => rfl
  | identifier h => exact Members.text_eq_ok.mpr h

theorem Function.readName_agree (h : ParameterNameAlike r first second) :
    Agree r (fun name other => other = r name) (readName location first)
      (readName (location.rename r) second) := by
  cases h with
  | spelt hfirst hsecond =>
    rw [readName_spelt location hfirst, readName_spelt _ hsecond]
    exact .ok rfl
  | other h hfirst hsecond =>
    cases h with
    | made hname => exact Members.text_agree location hname
    | other hshape hobject hobject' =>
      unfold readName
      split
      · exact absurd rfl (hfirst _)
      · exact absurd rfl (hobject _)
      · rw [hshape]
        exact .malformed location _

theorem Function.readParameter_agree (h : ParameterAlike r first second) :
    Agree r (fun name other => other = r name) (readParameter location first)
      (readParameter (location.rename r) second) := by
  refine (Json.node_agree location h).bind fun members others hmembers => ?_
  refine (Members.required_agree location hmembers).bind fun part other hname => ?_
  exact readName_agree location hname

theorem Function.readBody_spelt {part : Option Json} {statements : List Json}
    (h : SpellsBody part statements) : readBody location part = .ok statements := by
  cases h with
  | block h => exact Members.sequence_eq_ok.mpr h
  | _ => rfl

theorem Function.readBody_agree {part other : Option Json} (h : BodyAlike r part other) :
    Agree r (List.Forall₂ (StatementAlike r)) (readBody location part)
      (readBody (location.rename r) other) := by
  cases h with
  | spelt hfirst hsecond h =>
    rw [readBody_spelt location hfirst, readBody_spelt _ hsecond]
    exact .ok h
  | @other first second h hnull harray =>
    cases h with
    | made hblock => exact Members.sequence_agree location hblock
    | other hshape hobject hobject' =>
      cases first with
      | null => exact absurd rfl hnull
      | array items => exact absurd rfl (harray items)
      | object members => exact absurd rfl (hobject members)
      | _ =>
        cases second <;> cases hshape
        exact .malformed location _

theorem Function.read_agree {members others : Members} (h : FunctionMembersAlike r members others) :
    Agree r (Function.Agrees r) (Function.read members) (Function.read others) := by
  refine (Members.node_agree (.functionDeclaration none) h.identifier).bind fun _ _ hname => ?_
  refine (Members.text_agree (.functionDeclaration none) hname).bind fun name _ hname => ?_
  subst hname
  refine (Members.sequence_agree (.functionDeclaration (some name)) h.parameters).bind
    fun items others hitems => ?_
  have hparameters := Agree.mapM (hitems.imp fun _ _ =>
    readParameter_agree (.functionDeclaration (some name)))
  refine hparameters.bind fun parameters others hparameters => ?_
  refine (readBody_agree (.functionDeclaration (some name)) h.body).bind fun _ _ hbody => ?_
  exact .ok ⟨rfl, eq_map_of_forall₂ hparameters, hbody⟩

end Functions

section Elements

inductive Element.Agrees (r : String → String) : Element → Element → Prop
  | variableStatement {declarations others : List Json}
      (h : List.Forall₂ (DeclaratorAlike r) declarations others) :
      Agrees r (.variableStatement declarations) (.variableStatement others)
  | function {declaration other : Function} (h : declaration.Agrees r other) :
      Agrees r (.function declaration) (.function other)
  | other (kind : String) : Agrees r (.other kind) (.other kind)

structure ElementMembersAlike (r : String → String) (first second : Members) : Prop where
  kind : AlikeAt (TextAlike id) "type" first second
  declarations : first.kind? = some "VariableStatement" →
    AlikeAt (ItemsAlike (DeclaratorAlike r)) "declarations" first second
  function : first.kind? = some "FunctionDeclaration" → FunctionMembersAlike r first second

abbrev ElementAlike (r : String → String) : Json → Json → Prop :=
  NodeAlike (ElementMembersAlike r)

variable {r : String → String} {first second : Json}

theorem Element.read_agree (h : ElementAlike r first second) :
    Agree r (Element.Agrees r) (Element.read first) (Element.read second) := by
  refine (Json.node_agree .element h).bind fun members others hmembers => ?_
  refine (Members.kind_agree .element hmembers.kind).bind fun kind _ hkind => ?_
  obtain ⟨rfl, hkind⟩ := hkind
  split_ifs with hvariable hfunction
  · subst hvariable
    exact (Members.sequence_agree .variableStatement (hmembers.declarations hkind)).bind
      fun _ _ hdeclarations => .ok (.variableStatement hdeclarations)
  · subst hfunction
    exact (Function.read_agree (hmembers.function hkind)).bind
      fun _ _ hagree => .ok (.function hagree)
  · exact .ok (.other _)

end Elements

end ContractLowering.Source
