import ContractLowering.Proofs.Lowering.Declarator
import ContractLowering.Proofs.Lowering.Lookup
import ContractLowering.Proofs.Schema.Rearrangement

/-! # Lowering under rearranged schemas

A pass asks a schema for nothing but its answers, so under schemas that answer alike a contract is
lowered to the same nodes, with the same failures and the same warnings. Of a declarator even less
is asked: for a type if there is no initial value, and whether it is payable if it is an address.
-/

namespace ContractLowering

theorem Schema.AnswersAlike.type?_eq {first second : Schema} (h : first.AnswersAlike second)
    (slot : TypeSlot) : second.type? slot = first.type? slot := by
  cases slot with
  | state name =>
    have hstate := congrArg (Option.map Prod.fst) (h.state name)
    rwa [Option.map_map, Option.map_map] at hstate
  | parameter function name =>
    simp only [Schema.type?, Option.map_bind]
    exact h.bind_answers_eq (·.parameter name) function
  | result function => exact h.bind_answers_eq (·.type) function

theorem findSome?_functionKeywords {α : Type} (schema : Schema) (name : String)
    (f : String → Option α) :
    (functionKeywords schema name).findSome? f =
      (schema.definition? name).bind fun definition => definition.keywords.findSome? f := by
  rw [functionKeywords]
  cases schema.definition? name <;> rfl

section Variables

variable {first second : Schema} {name : String}

theorem bareVariable_congr
    (htype : second.type? (.state name) = first.type? (.state name))
    (hpayable : (variableType first name).node = .address →
      (second.stateVariable? name).any (·.payable) =
        (first.stateVariable? name).any (·.payable)) :
    bareVariable second name = bareVariable first name := by
  have hvariable : variableType second name = variableType first name :=
    congrArg (resolve (.state name)) htype
  simp only [bareVariable, hvariable]
  rw [markPayable_congr hpayable]

theorem initializedVariable_congr {inferred : Inferred}
    (hpayable : inferred.type = .address →
      (second.stateVariable? name).any (·.payable) =
        (first.stateVariable? name).any (·.payable)) :
    initializedVariable second name inferred = initializedVariable first name inferred := by
  simp only [initializedVariable, markPayable_congr hpayable]

/-- A declarator asks for a type only if it has no initial value, and whether it is payable only if
it is an address. -/
theorem lowerDeclarator_congr {value : Json}
    (htype : ∀ name, Source.Declares value name none →
      (second.stateVariable? name).map (·.type) = (first.stateVariable? name).map (·.type))
    (hpayable : ∀ name lowered, lowerDeclarator first value = .ok lowered →
      ∀ v ∈ lowered.node.declared, v.name = some name → v.typeName.type = .address →
      (second.stateVariable? name).any (·.payable) =
        (first.stateVariable? name).any (·.payable)) :
    lowerDeclarator second value = lowerDeclarator first value := by
  cases hread : Source.Variable.read value with
  | error failure =>
    rw [lowerDeclarator, lowerDeclarator, hread]
    rfl
  | ok declared =>
    obtain ⟨name, initializer⟩ := declared
    have hlower (schema : Schema) :
        lowerDeclarator schema value = lowerVariable schema ⟨name, initializer⟩ := by
      rw [lowerDeclarator, hread]
      rfl
    rw [hlower, hlower]
    simp only [hlower] at hpayable
    -- both cases ask for the mark of an address, only the first one asks for a type
    cases initializer with
    | none =>
      obtain ⟨_, hdeclares, hspelt⟩ := Source.Variable.read_eq_ok.mp hread
      cases hspelt
      have haddress := hpayable name _ (lowerVariable_bare name) _ List.mem_cons_self rfl
      rw [lowerVariable_bare, lowerVariable_bare,
        bareVariable_congr (htype name hdeclares) haddress]
    | some initializer =>
      rw [lowerVariable_initialized, lowerVariable_initialized]
      rw [lowerVariable_initialized] at hpayable
      cases hinfer : infer (.declarator (some name)) initializer with
      | error failure => rfl
      | ok inferred =>
        rw [hinfer] at hpayable
        have haddress := hpayable name _ rfl _ List.mem_cons_self rfl
        simp only [Except.map, initializedVariable_congr haddress]

end Variables

section Contracts

variable {first second : Schema} (h : first.AnswersAlike second)
include h

theorem loweredParameters_eq (declared : Source.Function) :
    loweredParameters second declared = loweredParameters first declared := by
  apply List.map_congr_left
  intro name _
  have htype := h.type?_eq (.parameter declared.name name)
  simp only [Schema.type?] at htype
  simp only [lowerParameter, htype]

theorem resultType_eq (name : String) : resultType second name = resultType first name :=
  congrArg (resolve (.result name)) (h.type?_eq (.result name))

theorem functionOf_eq (declared : Source.Function) (body : List Target.Statement) :
    functionOf second declared body = functionOf first declared body := by
  have hvisibility := h.bind_answers_eq (·.visibility) declared.name
  have hmutability := h.bind_answers_eq (·.mutability) declared.name
  simp only [Schema.Definition.answers, ← findSome?_functionKeywords] at hvisibility hmutability
  simp only [functionOf, loweredParameters_eq h, resultType_eq h, hvisibility, hmutability]

/-- What the source leaves open is completed alike. -/
theorem Draft.complete_eq (draft : Draft) : draft.complete second = draft.complete first := by
  cases draft with
  | bare name =>
    simp only [complete, bareVariable_congr (h.type?_eq (.state name)) fun _ => h.payable_eq name]
  | initialized name inferred =>
    simp only [complete, initializedVariable_congr fun _ => h.payable_eq name]
  | function declaration body =>
    simp only [complete, functionOf_eq h, functionWarnings, loweredParameters_eq h,
      resultType_eq h]
  | failed failure => rfl
  | skipped kind index => rfl

theorem gathered_eq_of_answersAlike (source : Source.Contract) :
    gathered second false source = gathered first false source := by
  have houtcomes : outcomes second source = outcomes first source := by
    rw [outcomes_eq_complete, outcomes_eq_complete]
    exact List.map_congr_left fun draft _ => Draft.complete_eq h draft
  rw [gathered, houtcomes]
  rfl

theorem lower_eq_of_answersAlike (mode : Mode) (source : Source.Contract) :
    lower second ⟨mode, false⟩ source = lower first ⟨mode, false⟩ source := by
  cases mode with
  | permissive => rw [lower_permissive, lower_permissive, gathered_eq_of_answersAlike h]
  | strict => rw [lower_strict, lower_strict, gathered_eq_of_answersAlike h]

end Contracts

/-- A schema has its say through first look-ups only. Schemas that answer them alike, and so schemas
that are rearranged, lower every contract to the same, in each mode. For a declarator with an
initial value the type does not matter, and without an address it does not matter what is
payable. -/
theorem lower_by_first_answers (first second : Schema) :
    (first.AnswersAlike second → ∀ (mode : Mode) (source : Source.Contract),
      lower second ⟨mode, false⟩ source = lower first ⟨mode, false⟩ source) ∧
    (Relation.EqvGen Schema.Rearranges first second → ∀ (mode : Mode) (source : Source.Contract),
      lower second ⟨mode, false⟩ source = lower first ⟨mode, false⟩ source) ∧
    ∀ value : Json,
      (∀ name, Source.Declares value name none →
        (second.stateVariable? name).map (·.type) = (first.stateVariable? name).map (·.type)) →
      (∀ name lowered, lowerDeclarator first value = .ok lowered →
        ∀ v ∈ lowered.node.declared, v.name = some name → v.typeName.type = .address →
        (second.stateVariable? name).any (·.payable) =
          (first.stateVariable? name).any (·.payable)) →
      lowerDeclarator second value = lowerDeclarator first value := by
  refine ⟨lower_eq_of_answersAlike, fun hrearranged => ?_, fun value => lowerDeclarator_congr⟩
  exact lower_eq_of_answersAlike (Schema.answersAlike_of_eqvGen hrearranged)

/-- Two entries in another order, an unknown word between two keywords and a second definition of a
name make no difference; nor does the order of keywords of different kinds, or the entry of a
variable that starts with a text. -/
theorem lower_by_first_answers_reordered :
    let signature (keywords : List String) : Schema.Definition :=
      ⟨"f", keywords, some "u8", [⟨"p", "bool"⟩], []⟩
    let first : Schema :=
      ⟨[⟨"a", "address", true⟩, ⟨"x", "u8", true⟩], [signature ["view", "external"]], []⟩
    let second : Schema :=
      ⟨[⟨"x", "u8", true⟩, ⟨"a", "address", true⟩],
        [signature ["view", "fast", "external"], ⟨"f", ["pure"], none, [], []⟩], []⟩
    let third : Schema := { first with definitions := [signature ["external", "view"]] }
    let value : Json := .object [("id", .object [("name", .text "x")]),
      ("initializer", .object [("type", .text "StringLiteral"), ("value", .text "s")])]
    (∀ mode source, lower second ⟨mode, false⟩ source = lower first ⟨mode, false⟩ source) ∧
      (∀ mode source, lower third ⟨mode, false⟩ source = lower first ⟨mode, false⟩ source) ∧
      lowerDeclarator first value = lowerDeclarator .empty value := by
  intro signature first second third value
  have hrearranged : Relation.EqvGen Schema.Rearranges first second := by
    refine .trans _ _ _ (.rel _ _ (.state first (.permuted (by decide) (.swap _ _ [])))) ?_
    have hword : (signature ["view", "external"]).Rearranges
        (signature ["view", "fast", "external"]) :=
      .word ["view"] ["external"] rfl (by decide) (by decide)
    refine .trans _ _ _ (.rel _ _ (.definition _ [] [] rfl hword)) ?_
    exact .rel _ _ (.definitions _ (.repeated (by decide)))
  have halike : first.AnswersAlike third := by
    refine ⟨fun _ => rfl, fun name => ?_⟩
    by_cases hname : "f" = name
    · subst hname
      rfl
    · simp [first, third, signature, Schema.definition?, hname]
  refine ⟨(lower_by_first_answers first second).2.1 hrearranged,
    (lower_by_first_answers first third).1 halike, ?_⟩
  obtain ⟨-, -, hdeclarator⟩ := lower_by_first_answers .empty first
  refine hdeclarator value ?_ ?_
  · rintro name ⟨members, identifier, hvalue, -, -, hinitializer⟩
    rw [← Json.object.inj hvalue] at hinitializer
    exact nomatch hinitializer
  · rintro name lowered ⟨⟩ v hv - haddress
    obtain rfl := List.mem_singleton.mp hv
    exact nomatch haddress

end ContractLowering
