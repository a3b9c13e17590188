import ContractLowering.Proofs.Target.Decoder

/-! # Documents read back

The value of every node is plain within the room that its parts need, so that its document can be
read. Once read, it decodes to the node, bottom up. Types are written as their names alone: here a
name given by a schema must not be the spelling of another type.
-/

namespace ContractLowering.Target

open Json (Plain text? boolean? items? orNull?)

namespace ElementaryType

/-- The spellings that stand for a type other than the one a schema names with them. -/
def reserved : List String := ["", "u8", "uint8", "address", "string", "bool"]

/-- A type that is told by what is written for it. -/
def Canonical : ElementaryType → Prop
  | named name => name ∉ reserved
  | _ => True

instance : DecidablePred Canonical
  | named name => inferInstanceAs (Decidable (name ∉ reserved))
  | uint8 | address | string | bool | unresolved => inferInstanceAs (Decidable True)

theorem ofSchema_canonical (name : String) : (ofSchema name).Canonical := by
  unfold ofSchema
  split_ifs <;> simp_all [Canonical, reserved]

/-- What is written for a type names it as a schema would. -/
theorem ofSchema_text_iff {type : ElementaryType} : ofSchema type.text = type ↔ type.Canonical := by
  constructor
  · intro h
    rw [← h]
    exact ofSchema_canonical type.text
  · intro h
    cases type with
    | named name =>
      simp only [Canonical, reserved, List.mem_cons, List.not_mem_nil, or_false, not_or] at h
      simp [ofSchema, text, h]
    | _ => rfl

end ElementaryType

section Plain

variable {α : Type} {encode : α → Json} {room : Nat}

theorem orNull_plain (part : Option α) (h : ∀ inner, (encode inner).Plain room) :
    (orNull encode part).Plain room := by
  cases part with
  | none => exact Json.plain_null
  | some inner => exact h inner

theorem texts_plain (values : List String) : (texts values).Plain (room + 1) :=
  Json.plain_array fun value _ => Json.plain_text value

theorem ifPresent_plain (name : String) (part : Option α) (h : ∀ inner, (encode inner).Plain room) :
    ∀ member ∈ ifPresent name encode part, member.2.Plain room := by
  cases part with
  | none => exact nofun
  | some inner => exact List.forall_mem_singleton.mpr (h inner)

/-- A node is plain when its members are and no two of them share a name. -/
theorem tagged_plain (type : String) {members : Members}
    (hnames : ("type" :: members.map Prod.fst).Nodup)
    (h : ∀ member ∈ members, member.2.Plain room) : (tagged type members).Plain (room + 1) :=
  ⟨hnames, List.forall_mem_cons.mpr ⟨Json.plain_text type, h⟩⟩

theorem identifier_plain (name : String) : (identifier name).Plain (room + 1) :=
  tagged_plain _ (by simp) (by simp)

theorem TypeName.toJson_plain (typeName : TypeName) : typeName.toJson.Plain (room + 1) :=
  tagged_plain _ (by simp) (by simp [orNull_plain])

theorem Literal.toJson_plain (literal : Literal) : literal.toJson.Plain (room + 2) := by
  cases literal with
  | number numeral unit =>
    refine tagged_plain _ (by cases unit <;> simp [ifPresent]) ?_
    exact List.forall_mem_cons.mpr ⟨Json.plain_text numeral, ifPresent_plain _ _ Json.plain_text⟩
  | text value parts isUnicode =>
    have hunicode : (Json.array (isUnicode.map Json.boolean)).Plain (room + 1) :=
      Json.plain_array fun value _ => Json.plain_boolean value
    exact tagged_plain _ (by simp) (by simp [texts_plain, hunicode])
  | boolean value => exact tagged_plain _ (by simp) (by simp)

theorem Variable.toJson_plain (v : Variable) : v.toJson.Plain (room + 3) := by
  refine tagged_plain _ (by cases v.expression <;> cases v.visibility <;> simp [ifPresent]) ?_
  have hexpression : ∀ member ∈ ifPresent "expression" Literal.toJson v.expression,
      member.2.Plain (room + 2) := ifPresent_plain _ _ Literal.toJson_plain
  have hvisibility : ∀ member ∈ ifPresent "visibility" (fun a => Json.text a.keyword) v.visibility,
      member.2.Plain (room + 2) := ifPresent_plain _ _ fun a => Json.plain_text a.keyword
  simp only [List.forall_mem_append]
  refine ⟨⟨⟨?_, hexpression⟩, hvisibility⟩, ?_⟩
  · simp [TypeName.toJson_plain, orNull_plain, identifier_plain]
  · simp [orNull_plain, texts_plain]

theorem variables_plain (vs : List Variable) :
    (Json.array (vs.map Variable.toJson)).Plain (room + 4) :=
  Json.plain_array fun v _ => v.toJson_plain

/-- The expression of a statement that returns a binary one. -/
def binary (operator left right : String) : Json :=
  tagged "BinaryExpression"
    [("operator", .text operator), ("left", identifier left), ("right", identifier right)]

theorem binary_plain (operator left right : String) :
    (binary operator left right).Plain (room + 2) :=
  tagged_plain _ (by simp) (by simp [identifier_plain])

theorem Statement.toJson_plain (statement : Statement) : statement.toJson.Plain (room + 3) := by
  obtain ⟨operator, left, right⟩ := statement
  refine tagged_plain _ (by simp) ?_
  exact List.forall_mem_singleton.mpr (binary_plain operator left right)

theorem block_plain (statements : List Statement) :
    (tagged "Block" [("statements", .array (statements.map Statement.toJson))]).Plain
      (room + 5) := by
  refine tagged_plain _ (by simp) ?_
  exact List.forall_mem_singleton.mpr (Json.plain_array fun statement _ => statement.toJson_plain)

theorem SubNode.toJson_plain (node : SubNode) : node.toJson.Plain (room + 6) := by
  cases node with
  | state declaration =>
    refine tagged_plain _ (by simp [StateVariable.members]) ?_
    simp [StateVariable.members, variables_plain, orNull_plain, Literal.toJson_plain]
  | function definition =>
    refine tagged_plain _ (by simp [Function.members]) ?_
    simp [Function.members, variables_plain, orNull_plain, texts_plain, block_plain]
  | event definition =>
    refine tagged_plain _ (by simp [Event.members]) ?_
    simp [Event.members, variables_plain]

theorem Contract.toJson_plain (contract : Contract) : contract.toJson.Plain (room + 8) := by
  have hsubNodes : (Json.array (contract.subNodes.map SubNode.toJson)).Plain (room + 7) :=
    Json.plain_array fun node _ => node.toJson_plain
  exact tagged_plain _ (by simp) (by simp [texts_plain, hsubNodes])

end Plain

section Decoded

variable {α : Type} {encode : α → Json} {decode : Json → Option α}

theorem orNull?_sorted (part : Option α) (h : ∀ inner, decode (encode inner).sorted = some inner)
    (hnull : decode .null = none) :
    orNull? decode (orNull encode part).sorted = some part := by
  cases part with
  | none => rfl
  | some inner =>
    have hinner := h inner
    rw [orNull]
    cases hvalue : (encode inner).sorted with
    -- a part that is there is never written as `null`
    | null =>
      rw [hvalue, hnull] at hinner
      exact nomatch hinner
    | _ =>
      rw [hvalue] at hinner
      simp [orNull?, hinner]

theorem texts?_sorted (values : List String) : texts? (texts values).sorted = some values :=
  Json.items?_sorted text? fun value _ => Json.text?_sorted value

@[simp]
theorem get?_ifPresent (name other : String) (part : Option α) :
    Members.get? (ifPresent name encode part) other =
      if name = other then part.map encode else none := by
  cases part with
  | none => simp [ifPresent]
  | some inner => simp [ifPresent]

@[simp]
theorem member?_tagged (type name : String) (members : Members) :
    (tagged type members).member? name =
      if "type" = name then some (.text type) else Members.get? members name :=
  Members.get?_cons name _ members

theorem visibility?_sorted (visibility : Visibility) :
    keyword? Visibility.ofKeyword? (Json.text visibility.keyword).sorted = some visibility := by
  cases visibility <;> rfl

theorem mutability?_sorted (mutability : Option Mutability) :
    orNull? (keyword? Mutability.ofKeyword?)
      (orNull (fun m => .text m.keyword) mutability).sorted = some mutability :=
  orNull?_sorted mutability (fun m => by cases m <;> rfl) rfl

theorem identifier?_sorted (name : String) : identifier? (identifier name).sorted = some name := by
  have hplain : (identifier name).Plain 1 := identifier_plain name
  simp only [identifier?, hplain.ofType?_sorted rfl, Option.bind_eq_bind, Option.bind_some,
    hplain.at?_sorted]
  simp [identifier]

theorem TypeName.ofJson?_sorted {typeName : TypeName} (h : typeName.type.Canonical) :
    TypeName.ofJson? typeName.toJson.sorted = some typeName := by
  have hplain : typeName.toJson.Plain 1 := typeName.toJson_plain
  simp only [TypeName.ofJson?, hplain.ofType?_sorted rfl, Option.bind_eq_bind, Option.bind_some,
    hplain.at?_sorted]
  simp [TypeName.toJson, ElementaryType.ofSchema_text_iff.mpr h, mutability?_sorted]

theorem Literal.ofJson?_sorted (literal : Literal) :
    Literal.ofJson? literal.toJson.sorted = some literal := by
  have hplain : literal.toJson.Plain 2 := literal.toJson_plain
  cases literal with
  | number numeral unit =>
    have hunit : (number numeral unit).toJson.sorted.ifAt? "subdenomination" text? = some unit :=
      hplain.ifAt?_sorted _ _ (by simp [Literal.toJson]) fun inner _ => Json.text?_sorted inner
    simp only [Literal.ofJson?, hplain.at?_sorted, hunit]
    simp [Literal.toJson]
  | text value parts isUnicode =>
    have hunicode : items? boolean? (Json.array (isUnicode.map Json.boolean)).sorted =
        some isUnicode := Json.items?_sorted boolean? fun value _ => Json.boolean?_sorted value
    simp only [Literal.ofJson?, hplain.at?_sorted]
    simp [Literal.toJson, texts?_sorted, hunicode]
  | boolean value =>
    simp only [Literal.ofJson?, hplain.at?_sorted]
    simp [Literal.toJson]

theorem Variable.ofJson?_sorted {v : Variable} (h : v.typeName.type.Canonical) :
    Variable.ofJson? v.toJson.sorted = some v := by
  have hplain : v.toJson.Plain 3 := v.toJson_plain
  have hexpression : v.toJson.sorted.ifAt? "expression" Literal.ofJson? = some v.expression :=
    hplain.ifAt?_sorted _ _ (by simp [Variable.toJson]) fun literal _ => literal.ofJson?_sorted
  have hvisibility : v.toJson.sorted.ifAt? "visibility" (keyword? Visibility.ofKeyword?) =
      some v.visibility :=
    hplain.ifAt?_sorted _ _ (by simp [Variable.toJson]) fun a _ => visibility?_sorted a
  have hname := orNull?_sorted v.name Json.text?_sorted rfl
  have hidentifier := orNull?_sorted v.identifier identifier?_sorted rfl
  have hoverrides := orNull?_sorted v.overrides texts?_sorted rfl
  have hlocation := orNull?_sorted v.storageLocation Json.text?_sorted rfl
  simp only [Variable.ofJson?, hplain.ofType?_sorted rfl, Option.bind_eq_bind, Option.bind_some,
    hplain.at?_sorted, hexpression, hvisibility]
  simp [Variable.toJson, TypeName.ofJson?_sorted h, hname, hidentifier, hoverrides, hlocation]

theorem variables?_sorted {vs : List Variable} (h : ∀ v ∈ vs, v.typeName.type.Canonical) :
    variables? (Json.array (vs.map Variable.toJson)).sorted = some vs :=
  Json.items?_sorted _ fun v hv => Variable.ofJson?_sorted (h v hv)

theorem Statement.ofJson?_sorted (statement : Statement) :
    Statement.ofJson? statement.toJson.sorted = some statement := by
  have hplain : statement.toJson.Plain 3 := statement.toJson_plain
  obtain ⟨operator, left, right⟩ := statement
  have hbinary : (binary operator left right).Plain 2 := binary_plain operator left right
  have hmember : (returnBinary operator left right).toJson.member? "expression" =
      some (binary operator left right) := rfl
  simp only [Statement.ofJson?, hplain.ofType?_sorted rfl, Option.bind_eq_bind, Option.bind_some,
    hplain.at?_sorted, hmember, hbinary.ofType?_sorted rfl, hbinary.at?_sorted]
  simp [binary, identifier?_sorted]

theorem block?_sorted (statements : List Statement) :
    block? (tagged "Block" [("statements", .array (statements.map Statement.toJson))]).sorted =
      some statements := by
  have hplain : (tagged "Block" [("statements",
      .array (statements.map Statement.toJson))]).Plain 5 := block_plain statements
  have hstatements : items? Statement.ofJson? (Json.array (statements.map Statement.toJson)).sorted =
      some statements := Json.items?_sorted _ fun statement _ => statement.ofJson?_sorted
  simp only [block?, hplain.ofType?_sorted rfl, Option.bind_eq_bind, Option.bind_some,
    hplain.at?_sorted]
  simp [hstatements]

end Decoded

/-- The variables that a node declares: for a function, its parameters and return slots. -/
def SubNode.variables : SubNode → List Variable
  | state declaration => declaration.declared
  | function definition => definition.parameters ++ definition.results
  | event definition => definition.parameters

def SubNode.Canonical (node : SubNode) : Prop :=
  ∀ v ∈ node.variables, v.typeName.type.Canonical

instance : DecidablePred SubNode.Canonical := fun node =>
  inferInstanceAs (Decidable (∀ v ∈ node.variables, v.typeName.type.Canonical))

/-- A contract whose types are all told by what is written for them. -/
def Contract.Canonical (contract : Contract) : Prop :=
  ∀ node ∈ contract.subNodes, node.Canonical

instance : DecidablePred Contract.Canonical := fun contract =>
  inferInstanceAs (Decidable (∀ node ∈ contract.subNodes, node.Canonical))

theorem SubNode.ofJson?_sorted {node : SubNode} (h : node.Canonical) :
    SubNode.ofJson? node.toJson.sorted = some node := by
  have hplain : node.toJson.Plain 6 := node.toJson_plain
  cases node with
  | state declaration =>
    have hdeclared := variables?_sorted h
    have hinitial := orNull?_sorted declaration.initialValue Literal.ofJson?_sorted rfl
    simp only [SubNode.variables] at hdeclared
    simp only [SubNode.ofJson?, StateVariable.ofJson?, hplain.at?_sorted]
    simp [SubNode.toJson, StateVariable.members, hdeclared, hinitial]
  | function definition =>
    have hparameters := variables?_sorted fun v hv => h v (List.mem_append_left _ hv)
    have hresults := variables?_sorted fun v hv => h v (List.mem_append_right _ hv)
    have hoverrides := orNull?_sorted definition.overrides texts?_sorted rfl
    simp only [SubNode.ofJson?, Function.ofJson?, hplain.at?_sorted]
    simp [SubNode.toJson, Function.members, hparameters, hresults, block?_sorted,
      visibility?_sorted, texts?_sorted, hoverrides, mutability?_sorted]
  | event definition =>
    have hparameters := variables?_sorted h
    simp only [SubNode.variables] at hparameters
    simp only [SubNode.ofJson?, Event.ofJson?, hplain.at?_sorted]
    simp [SubNode.toJson, Event.members, hparameters]

theorem Contract.ofJson?_sorted {contract : Contract} (h : contract.Canonical) :
    Contract.ofJson? contract.toJson.sorted = some contract := by
  have hplain : contract.toJson.Plain 8 := contract.toJson_plain
  have hsubNodes : items? SubNode.ofJson?
      (Json.array (contract.subNodes.map SubNode.toJson)).sorted = some contract.subNodes :=
    Json.items?_sorted _ fun node hnode => SubNode.ofJson?_sorted (h node hnode)
  simp only [Contract.ofJson?, hplain.ofType?_sorted rfl, Option.bind_eq_bind, Option.bind_some,
    hplain.at?_sorted]
  simp [Contract.toJson, texts?_sorted, hsubNodes]

theorem Contract.parse?_indented (contract : Contract) {blanks : String}
    (hblanks : ∀ c ∈ blanks.toList, Token.isBlank c = true) :
    Json.parse? (contract.toJson.indented ++ blanks) = some contract.toJson.sorted := by
  have hplain : contract.toJson.Plain Reading.maxDepth := contract.toJson_plain
  exact hplain.parse?_indented hblanks

/-- A document is one value and one line break behind it. -/
theorem Contract.document_eq (contract : Contract) :
    ∃ text : String, contract.document = text ++ "\n" ∧ text.toList.getLast? = some '}' ∧
      Json.parse? text = some contract.toJson.sorted ∧
      Json.parse? contract.document = some contract.toJson.sorted := by
  refine ⟨contract.toJson.indented, rfl, ?_, ?_, contract.parse?_indented (by simp [Token.isBlank])⟩
  · rw [Json.indented, String.toList_ofList]
    exact Json.getLast?_object_indentedChars 0 _
  · have hempty : ∀ c ∈ "".toList, Token.isBlank c = true := by simp
    have hread := contract.parse?_indented hempty
    rwa [String.append_empty] at hread

/-- The document of a contract is read back as the contract. -/
theorem Contract.ofDocument?_document {contract : Contract} (h : contract.Canonical) :
    ofDocument? contract.document = some contract := by
  obtain ⟨_, _, _, _, hread⟩ := contract.document_eq
  rw [ofDocument?, hread, Option.bind_some, ofJson?_sorted h]

theorem Contract.document_eq_iff {first second : Contract} (hfirst : first.Canonical)
    (hsecond : second.Canonical) : first.document = second.document ↔ first = second := by
  constructor
  · intro h
    have hread := ofDocument?_document hfirst
    rw [h, ofDocument?_document hsecond] at hread
    exact (Option.some.inj hread).symm
  · intro h
    rw [h]

end ContractLowering.Target
