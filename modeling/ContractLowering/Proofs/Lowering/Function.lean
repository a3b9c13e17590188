import ContractLowering.Proofs.Lowering.Node
import ContractLowering.Proofs.Lowering.Statement
import ContractLowering.Proofs.Schema.FirstMatch
import ContractLowering.Proofs.Source.Function
import ContractLowering.Session

/-! # The language of functions

A function is lowered exactly when it is declared as it should be and each of its statements can be
lowered. Otherwise it fails as its first statement does that fails. Types, visibility and mutability
follow the first definition of the same name.
-/

namespace ContractLowering

open Source (DeclaresFunction)

/-- The type that stands for what a schema says of a slot. -/
def typeOf : Option String → Target.ElementaryType
  | some type => .ofSchema type
  | none => .unresolved

theorem resolve_node (slot : TypeSlot) (type : Option String) :
    (resolve slot type).node = typeOf type := by
  cases type <;> rfl

/-- The lowered function has the signature that a definition gives to the declared one. -/
structure Follows (signature : Option Schema.Definition) (declared : Source.Function)
    (definition : Target.Function) : Prop where
  name : definition.name = declared.name
  /-- The parameters in their order, with the type of the first parameter of the name. -/
  parameters : List.Forall₂ (fun name v => ∃ parameter : Option Schema.TypedName,
      IsFirst (·.name = name) (signature.elim [] (·.parameters)) parameter ∧
      v = .parameter name (.plain (typeOf (parameter.map (·.type)))))
    declared.parameters definition.parameters
  results : definition.results = [.slot (.plain (typeOf (signature.bind (·.type))))]
  visibility : ∃ found : Option Target.Visibility,
    IsFirst (fun word => ∃ visibility : Target.Visibility, visibility.keyword = word)
      (signature.elim [] (·.keywords)) (found.map (·.keyword)) ∧
    definition.visibility = found.getD .publicAccess
  mutability : IsFirst (fun word => ∃ mutability : Target.Mutability, mutability.keyword = word)
    (signature.elim [] (·.keywords)) (definition.mutability.map (·.keyword))
  body : List.Forall₂ (fun statement lowered =>
      lowerStatementNode (.functionDeclaration (some declared.name)) statement = .ok lowered)
    declared.body definition.body

variable {schema : Schema}

theorem loweredParameter_follows (definition : Option Schema.Definition) (function name : String) :
    ∃ parameter : Option Schema.TypedName,
      IsFirst (·.name = name) (definition.elim [] (·.parameters)) parameter ∧
      (lowerParameter definition function name).node =
        .parameter name (.plain (typeOf (parameter.map (·.type)))) := by
  refine ⟨_, isFirst_find? _ _, ?_⟩
  rw [lowerParameter, resolve_node]
  cases definition <;> rfl

theorem functionKeywords_eq_elim (name : String) :
    functionKeywords schema name = (schema.definition? name).elim [] (·.keywords) := by
  rw [functionKeywords]
  cases schema.definition? name <;> rfl

theorem functionOf_follows {function : Source.Function} {body : List Target.Statement}
    (h : lowerBody (.functionDeclaration (some function.name)) function.body = .ok body) :
    Follows (schema.definition? function.name) function (functionOf schema function body) where
  name := rfl
  parameters := by
    change List.Forall₂ _ _ ((loweredParameters schema function).map (·.node))
    rw [loweredParameters, List.map_map, List.forall₂_map_right_iff, List.forall₂_same]
    exact fun name _ => loweredParameter_follows _ function.name name
  results := by
    rw [functionOf, resultType, resolve_node]
  visibility := by
    rw [← functionKeywords_eq_elim]
    exact ⟨_, isFirst_keyword _ Target.Visibility.all
      (fun visibility => by cases visibility <;> decide) _, rfl⟩
  mutability := by
    rw [← functionKeywords_eq_elim]
    exact isFirst_keyword _ Target.Mutability.all
      (fun mutability => by cases mutability <;> decide) _
  body := by
    rwa [lowerBody_eq_mapM, mapM_eq_ok] at h

section Elements

variable {members : Members} (h : members.get? "type" = some (.text "FunctionDeclaration"))
include h

/-- A function element is read, and then its body is lowered; the schema has no say in either. -/
theorem lowerElement_eq_bind :
    Session.lowerElement schema (.object members) = (do
      let declared ← Source.Function.read members
      let body ← lowerBody (.functionDeclaration (some declared.name)) declared.body
      return some ⟨functionOf schema declared body, functionWarnings schema declared⟩) := by
  rw [Session.lowerElement, Source.Element.read_function h]
  cases Source.Function.read members with
  | error failure => rfl
  | ok declared =>
    simp only [Functor.map, Except.map, bind, Except.bind, lowerFunction_eq_map]
    cases lowerBody (.functionDeclaration (some declared.name)) declared.body <;> rfl

theorem lowerElement_eq_ok {lowered : Lowered Target.Function} :
    Session.lowerElement schema (.object members) = .ok (some lowered) ↔
      ∃ declared body, DeclaresFunction members declared ∧
        lowerBody (.functionDeclaration (some declared.name)) declared.body = .ok body ∧
        lowered = ⟨functionOf schema declared body, functionWarnings schema declared⟩ := by
  simp only [lowerElement_eq_bind h, bind_eq_ok, Source.Function.read_eq_ok, pure_eq_ok,
    Option.some.injEq]
  constructor
  · rintro ⟨declared, hdeclares, body, hbody, rfl⟩
    exact ⟨declared, body, hdeclares, hbody, rfl⟩
  · rintro ⟨declared, body, hdeclares, hbody, rfl⟩
    exact ⟨declared, hdeclares, body, hbody, rfl⟩

theorem lowerElement_eq_error {declared : Source.Function} {failure : Failure}
    (hdeclares : DeclaresFunction members declared) :
    Session.lowerElement schema (.object members) = .error failure ↔
      lowerBody (.functionDeclaration (some declared.name)) declared.body = .error failure := by
  rw [lowerElement_eq_bind h, Source.Function.read_eq_ok.mpr hdeclares]
  change (do
    let body ← lowerBody (.functionDeclaration (some declared.name)) declared.body
    return some _) = _ ↔ _
  cases lowerBody (.functionDeclaration (some declared.name)) declared.body <;>
    simp [bind, Except.bind, pure, Except.pure]

end Elements

/-- A function element is lowered exactly when it declares a function all of whose statements can be
lowered, and then it follows the first definition of its name. If it declares one, it fails as the
first of the statements does that fail. -/
theorem lowerElement_language (schema : Schema) {members : Members}
    (h : members.get? "type" = some (.text "FunctionDeclaration")) :
    ((∃ lowered, Session.lowerElement schema (.object members) = .ok (some lowered)) ↔
      ∃ declared, DeclaresFunction members declared ∧ ∀ statement ∈ declared.body, ∃ lowered,
        lowerStatementNode (.functionDeclaration (some declared.name)) statement = .ok lowered) ∧
    (∀ declared failure, DeclaresFunction members declared →
      (Session.lowerElement schema (.object members) = .error failure ↔
        ∃ before statement after, declared.body = before ++ statement :: after ∧
          (∀ earlier ∈ before, ∃ lowered, lowerStatementNode
            (.functionDeclaration (some declared.name)) earlier = .ok lowered) ∧
          lowerStatementNode (.functionDeclaration (some declared.name)) statement =
            .error failure)) ∧
    ∀ lowered, Session.lowerElement schema (.object members) = .ok (some lowered) →
      ∃ declared signature, DeclaresFunction members declared ∧
        IsFirst (·.name = declared.name) schema.definitions signature ∧
        Follows signature declared lowered.node := by
  refine ⟨?_, ?_, ?_⟩
  · simp only [lowerElement_eq_ok h, lowerBody_eq_mapM, ← exists_mapM_eq_ok]
    constructor
    · rintro ⟨_, declared, body, hdeclares, hbody, -⟩
      exact ⟨declared, hdeclares, body, hbody⟩
    · rintro ⟨declared, hdeclares, body, hbody⟩
      exact ⟨_, declared, body, hdeclares, hbody, rfl⟩
  · intro declared failure hdeclares
    rw [lowerElement_eq_error h hdeclares, lowerBody_eq_mapM, mapM_eq_error]
  · intro lowered hlower
    obtain ⟨declared, body, hdeclares, hbody, rfl⟩ := (lowerElement_eq_ok h).mp hlower
    exact ⟨declared, _, hdeclares, isFirst_find? _ _, functionOf_follows hbody⟩

/-- A parameter that is repeated, and keywords of both kinds under a name that is defined twice. -/
theorem lowerElement_language_repeated :
    let parameter : Json := .object [("name", .text "a")]
    let operand : Json := .object [("name", .text "a")]
    let sum : Json := .object [("left", operand), ("operator", .text "+"), ("right", operand),
      ("type", .text "BinaryExpression")]
    let statement : Json := .object [("argument", sum), ("type", .text "ReturnStatement")]
    let members : Members := [("body", .object [("body", .array [statement])]),
      ("name", .object [("name", .text "f")]), ("params", .array [parameter, parameter]),
      ("type", .text "FunctionDeclaration")]
    let schema : Schema := ⟨[], [⟨"f", ["view", "external", "pure", "public"], none,
      [⟨"a", "u8"⟩, ⟨"a", "bool"⟩], []⟩, ⟨"f", [], some "string", [], []⟩], []⟩
    members.get? "type" = some (.text "FunctionDeclaration") ∧
      ∃ lowered declared signature,
        Session.lowerElement schema (.object members) = .ok (some lowered) ∧
        DeclaresFunction members declared ∧ declared.parameters = ["a", "a"] ∧
        Follows signature declared lowered.node ∧
        lowered.node.parameters.map (·.typeName.type) = [.uint8, .uint8] ∧
        lowered.node.results.map (·.typeName.type) = [.unresolved] ∧
        lowered.node.visibility = .externalAccess ∧ lowered.node.mutability = some .view := by
  intro parameter operand sum statement members schema
  have hkind : members.get? "type" = some (.text "FunctionDeclaration") := rfl
  have hparameter : Source.Function.SpellsParameter parameter "a" := ⟨_, _, rfl, rfl, .text "a"⟩
  have hdeclares : DeclaresFunction members ⟨"f", ["a", "a"], [statement]⟩ :=
    ⟨_, _, rfl, rfl, rfl, .cons hparameter (.cons hparameter .nil), .block rfl⟩
  have hlower : Session.lowerElement schema (.object members) = .ok (some
      ⟨functionOf schema ⟨"f", ["a", "a"], [statement]⟩ [.returnBinary "+" "a" "a"],
        [.unresolved (.result "f")]⟩) :=
    (lowerElement_eq_ok hkind).mpr ⟨_, _, hdeclares, rfl, rfl⟩
  obtain ⟨declared, signature, hdeclared, -, hfollows⟩ :=
    (lowerElement_language schema hkind).2.2 _ hlower
  obtain rfl : declared = ⟨"f", ["a", "a"], [statement]⟩ := Except.ok.inj <|
    (Source.Function.read_eq_ok.mpr hdeclared).symm.trans (Source.Function.read_eq_ok.mpr hdeclares)
  exact ⟨hkind, _, _, signature, hlower, hdeclared, rfl, hfollows, by decide, by decide, by decide,
    by decide⟩

end ContractLowering
