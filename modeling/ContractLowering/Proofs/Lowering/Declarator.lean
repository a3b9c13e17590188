import ContractLowering.Proofs.Lowering.Inference
import ContractLowering.Proofs.Lowering.Node
import ContractLowering.Proofs.Source.Variable

/-! # The language of declarators

A declarator is lowered exactly when it declares a name and its initializer, if it has one,
denotes a value. The lowered variable has the name, and the value is read back from its type and
literal. What is not lowered is unsupported if everything could be read and malformed otherwise.
-/

namespace ContractLowering

namespace Source

/-- The value that an initializer denotes. -/
inductive Denotes : Json → Value → Prop
  | text {members : Members} {s : String}
      (kind : members.get? "type" = some (.text "StringLiteral"))
      (value : members.get? "value" = some (.text s)) : Denotes (.object members) (.text s)
  | boolean {members : Members} {b : Bool}
      (kind : members.get? "type" = some (.text "BooleanLiteral"))
      (value : members.get? "value" = some (.boolean b)) : Denotes (.object members) (.boolean b)
  | uint8 {value : Json} {argument : Members} {number : Number} {n : ℕ}
      (call : Calls value "u8" [argument]) (given : argument.get? "value" = some (.number number))
      (value_eq : number.value = n) (range : n ≤ 255) : Denotes value (.uint8 n)
  | address {value : Json} {argument : Members} {s : String}
      (call : Calls value "address" [argument]) (given : argument.get? "value" = some (.text s)) :
      Denotes value (.address s)

/-- An initializer that can be read and has no counterpart: a node of another kind, a call of
another callee, or a number that is out of range. -/
inductive Unsupported : Json → Prop
  | kind {members : Members} {kind : String} (kind_eq : members.get? "type" = some (.text kind))
      (unknown : kind ∉ initializerKinds) : Unsupported (.object members)
  | callee {value : Json} {callee : String} {arguments : List Members}
      (call : Calls value callee arguments) (notUint8 : callee ≠ "u8")
      (notAddress : callee ≠ "address") : Unsupported value
  | range {value : Json} {argument : Members} {number : Number}
      (call : Calls value "u8" [argument]) (given : argument.get? "value" = some (.number number))
      (outside : ∀ n : ℕ, n ≤ 255 → number.value ≠ n) : Unsupported value

end Source

open Source (Calls Declares Denotes Initializer Unsupported)

section Initializers

variable {location : Location} {value : Json} {initializer : Initializer}

theorem Source.Denotes.inRange {meaning : Value} (h : Denotes value meaning) : meaning.InRange := by
  cases h with
  | uint8 hcall hgiven hvalue hrange => exact hrange
  | _ => trivial

theorem Source.Denotes.spelt {meaning : Value} (h : Denotes value meaning) :
    ∃ initializer, Initializer.Spelt value initializer ∧
      infer location initializer = .ok meaning.inferred := by
  cases h with
  | text hkind hvalue => exact ⟨_, .text hkind hvalue, rfl⟩
  | boolean hkind hvalue => exact ⟨_, .boolean hkind hvalue, rfl⟩
  | uint8 hcall hgiven hvalue hrange =>
    refine ⟨_, .call hcall, ?_⟩
    rw [List.map_singleton, Source.Argument.ofNode_eq_number.mpr hgiven, infer]
    exact inferCall_of_makes (.uint8 hvalue hrange)
  | address hcall hgiven =>
    refine ⟨_, .call hcall, ?_⟩
    rw [List.map_singleton, Source.Argument.ofNode_eq_text.mpr hgiven, infer]
    exact inferCall_of_makes (.address _)

/-- What can be inferred from an initializer is the value that it denotes. -/
theorem denotes_of_infer_eq_ok (hspelt : Initializer.Spelt value initializer)
    {inferred : Inferred} (h : infer location initializer = .ok inferred) :
    ∃ meaning, Denotes value meaning ∧ inferred = meaning.inferred := by
  cases hspelt with
  | text hkind hvalue => exact ⟨_, .text hkind hvalue, (Except.ok.inj h).symm⟩
  | boolean hkind hvalue => exact ⟨_, .boolean hkind hvalue, (Except.ok.inj h).symm⟩
  | other hkind hunknown => exact nomatch h
  | call hcall =>
    obtain ⟨argument, meaning, harguments, hmakes, rfl⟩ := inferCall_eq_ok.mp h
    obtain ⟨node, rfl, rfl⟩ := List.map_eq_singleton_iff.mp harguments
    refine ⟨meaning, ?_, rfl⟩
    generalize hargument : Source.Argument.ofNode node = argument at hmakes
    cases hmakes with
    | uint8 hvalue hrange =>
      exact .uint8 hcall (Source.Argument.ofNode_eq_number.mp hargument) hvalue hrange
    | address s => exact .address hcall (Source.Argument.ofNode_eq_text.mp hargument)

theorem Source.Unsupported.spelt (h : Unsupported value) :
    ∃ initializer, Initializer.Spelt value initializer ∧
      ReportsUnsupported (infer location initializer) := by
  cases h with
  | kind hkind hunknown => exact ⟨_, .other hkind hunknown, reportsUnsupported_unsupported _ _⟩
  | callee hcall hnotUint8 hnotAddress =>
    exact ⟨_, .call hcall, inferCall_reportsUnsupported.mpr (.inl ⟨hnotUint8, hnotAddress⟩)⟩
  | range hcall hgiven houtside =>
    refine ⟨_, .call hcall, ?_⟩
    rw [List.map_singleton, Source.Argument.ofNode_eq_number.mpr hgiven]
    exact inferCall_reportsUnsupported.mpr (.inr ⟨rfl, _, rfl, houtside⟩)

theorem unsupported_of_infer (hspelt : Initializer.Spelt value initializer)
    (h : ReportsUnsupported (infer location initializer)) : Unsupported value := by
  cases hspelt with
  | text hkind hvalue => exact absurd h (not_reportsUnsupported_ok _)
  | boolean hkind hvalue => exact absurd h (not_reportsUnsupported_ok _)
  | other hkind hunknown => exact .kind hkind hunknown
  | call hcall =>
    rcases inferCall_reportsUnsupported.mp h with
      ⟨hnotUint8, hnotAddress⟩ | ⟨rfl, number, harguments, houtside⟩
    · exact .callee hcall hnotUint8 hnotAddress
    · obtain ⟨node, rfl, hargument⟩ := List.map_eq_singleton_iff.mp harguments
      exact .range hcall (Source.Argument.ofNode_eq_number.mp hargument) houtside

end Initializers

/-- A variable of this name that starts with a value, if it has one. -/
def variableOf (schema : Schema) (name : String) : Option Value → Lowered Target.StateVariable
  | some meaning => ⟨initializedVariable schema name meaning.inferred, []⟩
  | none => bareVariable schema name

theorem variableOf_eq_declare (schema : Schema) (name : String) (meaning : Option Value) :
    ∃ typeName, (variableOf schema name meaning).node =
        .declare name typeName (meaning.map Value.literal) ∧
      ∀ denoted, meaning = some denoted → typeName.type = denoted.type := by
  cases meaning with
  | none => exact ⟨_, rfl, nofun⟩
  | some meaning =>
    refine ⟨_, rfl, ?_⟩
    rintro _ ⟨⟩
    rfl

section Declarators

variable {schema : Schema} {value : Json}

theorem lowerDeclarator_eq_ok {lowered : Lowered Target.StateVariable} :
    lowerDeclarator schema value = .ok lowered ↔
      ∃ name initializer meaning, Declares value name initializer ∧
        Option.Rel Denotes initializer meaning ∧ lowered = variableOf schema name meaning := by
  rw [lowerDeclarator, bind_eq_ok]
  constructor
  · rintro ⟨⟨name, initializer⟩, hread, hlower⟩
    obtain ⟨part, hdeclares, hspelt⟩ := Source.Variable.read_eq_ok.mp hread
    cases hspelt with
    | none =>
      rw [lowerVariable_bare, Except.ok.injEq] at hlower
      exact ⟨name, none, none, hdeclares, .none, hlower.symm⟩
    | some hspelt =>
      rw [lowerVariable_initialized] at hlower
      obtain ⟨inferred, hinfer, rfl⟩ := map_eq_ok.mp hlower
      obtain ⟨meaning, hdenotes, rfl⟩ := denotes_of_infer_eq_ok hspelt hinfer
      exact ⟨name, _, some meaning, hdeclares, .some hdenotes, rfl⟩
  · rintro ⟨name, part, meaning, hdeclares, hdenotes, rfl⟩
    cases hdenotes with
    | none =>
      exact ⟨⟨name, none⟩, Source.Variable.read_eq_ok.mpr ⟨_, hdeclares, .none⟩, rfl⟩
    | some hdenotes =>
      obtain ⟨initializer, hspelt, hinfer⟩ := hdenotes.spelt
      refine ⟨⟨name, some initializer⟩,
        Source.Variable.read_eq_ok.mpr ⟨_, hdeclares, .some hspelt⟩, ?_⟩
      rw [lowerVariable_initialized, hinfer]
      rfl

theorem lowerDeclarator_reportsUnsupported :
    ReportsUnsupported (lowerDeclarator schema value) ↔
      ∃ name initializer, Declares value name (some initializer) ∧ Unsupported initializer := by
  have hread : ¬ ReportsUnsupported (Source.Variable.read value) :=
    (Source.Variable.read_failsWith value).not_reportsUnsupported
  simp only [lowerDeclarator, reportsUnsupported_bind, hread, false_or]
  constructor
  · rintro ⟨⟨name, initializer⟩, hread, hlower⟩
    obtain ⟨part, hdeclares, hspelt⟩ := Source.Variable.read_eq_ok.mp hread
    cases hspelt with
    | none => exact absurd hlower (not_reportsUnsupported_ok _)
    | some hspelt =>
      rw [lowerVariable_initialized] at hlower
      exact ⟨name, _, hdeclares, unsupported_of_infer hspelt (reportsUnsupported_map.mp hlower)⟩
  · rintro ⟨name, part, hdeclares, hunsupported⟩
    obtain ⟨initializer, hspelt, hinfer⟩ := hunsupported.spelt
    refine ⟨⟨name, some initializer⟩,
      Source.Variable.read_eq_ok.mpr ⟨_, hdeclares, .some hspelt⟩, ?_⟩
    rw [lowerVariable_initialized]
    exact reportsUnsupported_map.mpr hinfer

end Declarators

/-- A declarator is lowered exactly when it declares a name, with a value or without; the lowered
variable has this name, the type of the value and a literal that stands for it. Everything else
is unsupported if an initializer can be read but has no counterpart, and malformed otherwise. -/
theorem lowerDeclarator_language (schema : Schema) (value : Json) :
    ((∃ lowered, lowerDeclarator schema value = .ok lowered) ↔
      ∃ name initializer meaning, Declares value name initializer ∧
        Option.Rel Denotes initializer meaning) ∧
    (∀ (name : String) (initializer : Option Json) (meaning : Option Value),
      Declares value name initializer → Option.Rel Denotes initializer meaning →
      ∃ lowered v, lowerDeclarator schema value = .ok lowered ∧
        lowered.node.declared = [v] ∧ v.name = some name ∧
        v.expression = lowered.node.initialValue ∧
        (lowered.node.initialValue = none ↔ initializer = none) ∧
        lowered.node.initialValue.bind (Value.ofLiteral? v.typeName.type) = meaning ∧
        ∀ denoted, meaning = some denoted → v.typeName.type = denoted.type) ∧
    (ReportsUnsupported (lowerDeclarator schema value) ↔
      ∃ name initializer, Declares value name (some initializer) ∧ Unsupported initializer) ∧
    (ReportsMalformed (lowerDeclarator schema value) ↔
      (¬ ∃ name initializer, Declares value name (some initializer) ∧ Unsupported initializer) ∧
      ¬ ∃ name initializer meaning, Declares value name initializer ∧
        Option.Rel Denotes initializer meaning) := by
  have hsuccess : (∃ lowered, lowerDeclarator schema value = .ok lowered) ↔
      ∃ name initializer meaning, Declares value name initializer ∧
        Option.Rel Denotes initializer meaning := by
    constructor
    · rintro ⟨lowered, hlower⟩
      obtain ⟨name, initializer, meaning, hdeclares, hdenotes, _⟩ := lowerDeclarator_eq_ok.mp hlower
      exact ⟨name, initializer, meaning, hdeclares, hdenotes⟩
    · rintro ⟨name, initializer, meaning, hdeclares, hdenotes⟩
      exact ⟨_, lowerDeclarator_eq_ok.mpr ⟨_, _, _, hdeclares, hdenotes, rfl⟩⟩
  refine ⟨hsuccess, ?_, lowerDeclarator_reportsUnsupported, ?_⟩
  · intro name initializer meaning hdeclares hdenotes
    have hlower : lowerDeclarator schema value = .ok (variableOf schema name meaning) :=
      lowerDeclarator_eq_ok.mpr ⟨_, _, _, hdeclares, hdenotes, rfl⟩
    obtain ⟨typeName, hnode, htype⟩ := variableOf_eq_declare schema name meaning
    refine ⟨_, .state name typeName (meaning.map Value.literal), hlower, ?_⟩
    rw [hnode]
    refine ⟨rfl, rfl, rfl, ?_, ?_, htype⟩
    · cases hdenotes <;> simp [Target.StateVariable.declare]
    · cases meaning with
      | none => rfl
      | some denoted =>
        change Value.ofLiteral? typeName.type denoted.literal = some denoted
        rw [htype denoted rfl, denoted.ofLiteral?_literal]
  · rw [reportsMalformed_iff, lowerDeclarator_reportsUnsupported, hsuccess]

/-- A number that is written with a fraction and is an integer nevertheless. -/
theorem lowerDeclarator_language_double :
    let five : Double := ⟨false, 0x14000000000000, -50, by decide⟩
    let call : Json := .object
      [("arguments", .array [.object [("value", .number (.double five))]]),
        ("callee", .object [("name", .text "u8")]), ("type", .text "CallExpression")]
    let value : Json := .object [("id", .object [("name", .text "x")]), ("initializer", call)]
    Declares value "x" (some call) ∧ Denotes call (.uint8 5) ∧
      ∃ lowered v, lowerDeclarator .empty value = .ok lowered ∧ lowered.node.declared = [v] ∧
        v.name = some "x" ∧ v.typeName.type = .uint8 ∧
        lowered.node.initialValue.bind (Value.ofLiteral? v.typeName.type) = some (.uint8 5) := by
  intro five call value
  have hdeclares : Declares value "x" (some call) := ⟨_, _, rfl, rfl, rfl, rfl⟩
  have hfive : (Number.double five).value = (5 : ℕ) := Number.toNat?_eq_some_iff.mp (by decide)
  have hdenotes : Denotes call (.uint8 5) :=
    .uint8 ⟨_, _, rfl, rfl, rfl, rfl, rfl⟩ rfl hfive (by decide)
  obtain ⟨lowered, v, hlower, hdeclared, hname, _, _, hmeaning, htype⟩ :=
    (lowerDeclarator_language .empty value).2.1 _ _ _ hdeclares (.some hdenotes)
  exact ⟨hdeclares, hdenotes, lowered, v, hlower, hdeclared, hname, htype _ rfl, hmeaning⟩

end ContractLowering
