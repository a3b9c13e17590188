import ContractLowering.Proofs.Lowering.Function
import ContractLowering.Proofs.Lowering.Outcome

/-! # Where failures are located

A pass fails in places of two kinds: at an element of the body, and at a declarator of a variable
statement. Everything inside of a declarator or a function is lowered with its location, so wherever
it fails the failure is located at the declarator or the function, by its name exactly if the name
can be read.
-/

namespace ContractLowering

/-- A place where a pass fails on its own: an element of the body, or a declarator in one. -/
inductive Source.Site where
  | element (value : Json)
  | declarator (value : Json)

/-- The sites of an element. A variable statement gives its place to its declarators. -/
def Source.Site.ofElement (value : Json) : List Site :=
  match Source.Element.read value with
  | .ok (.variableStatement declarations) => declarations.map .declarator
  | _ => [.element value]

def Source.Contract.sites (contract : Source.Contract) : List Source.Site :=
  contract.body.flatMap Source.Site.ofElement

def failureOf? {α : Type} : Except Failure α → Option Failure
  | .error failure => some failure
  | .ok _ => none

theorem failureOf?_eq_some {α : Type} {result : Except Failure α} {failure : Failure} :
    failureOf? result = some failure ↔ result = .error failure := by
  cases result <;> simp [failureOf?]

theorem failureOf?_map {α β : Type} {f : α → β} (result : Except Failure α) :
    failureOf? (f <$> result) = failureOf? result := by
  cases result <;> rfl

/-- How the lowering of a site alone fails. -/
def Source.Site.failure? (schema : Schema) : Source.Site → Option Failure
  | element value => failureOf? (Session.lowerElement schema value)
  | declarator value => failureOf? (lowerDeclarator schema value)

section Sites

variable (schema : Schema)

theorem Outcome.ofResult_failure? {α : Type} (node : α → Target.SubNode) (remark : α → Remark)
    (result : Except Failure (Lowered α)) :
    (ofResult node remark result).failure? = failureOf? result := by
  cases result <;> rfl

theorem Source.Site.filterMap_ofElement (element : Json × Nat) :
    ((Source.Part.ofElement element).map (Source.Part.outcome schema)).filterMap Outcome.failure? =
      (ofElement element.1).filterMap (failure? schema) := by
  simp only [Source.Part.ofElement, ofElement]
  cases hread : Source.Element.read element.1 with
  | error failure =>
    have hlower : Session.lowerElement schema element.1 = .error failure := by
      rw [Session.lowerElement, hread]
      rfl
    simp [failure?, hlower, Source.Part.outcome, Outcome.failure?, failureOf?]
  | ok read =>
    cases read with
    | variableStatement declarations =>
      rw [List.map_map, List.filterMap_map, List.filterMap_map]
      exact List.filterMap_congr fun value _ => Outcome.ofResult_failure? _ _ _
    | function declaration =>
      have hlower : Session.lowerElement schema element.1 =
          some <$> lowerFunction schema declaration := by
        rw [Session.lowerElement, hread]
        exact bind_pure_comp some (lowerFunction schema declaration)
      simp only [List.map_cons, List.map_nil, List.filterMap_cons, failure?, hlower, failureOf?_map,
        Source.Part.outcome, Outcome.ofResult_failure?]
      rfl
    | other kind =>
      have hlower : Session.lowerElement schema element.1 = .ok none := by
        rw [Session.lowerElement, hread]
        rfl
      simp [failure?, hlower, Source.Part.outcome, Outcome.failure?, failureOf?]

/-- The failures of a pass are those of its sites, each lowered alone. -/
theorem gathered_failures_eq_sites (events : Bool) (source : Source.Contract) :
    (gathered schema events source).failures = source.sites.filterMap (·.failure? schema) := by
  rw [gathered_failures, outcomes, Source.Contract.parts, Source.Contract.sites, List.map_flatMap,
    List.filterMap_flatMap, List.filterMap_flatMap]
  conv_rhs => rw [← List.zipIdx_map_fst 0 source.body, List.flatMap_map]
  exact List.flatMap_congr fun element _ => Source.Site.filterMap_ofElement schema element

end Sites

section Lowerers

variable (location : Location) (schema : Schema)

theorem constructed_failsAt (callee : String) (type : Target.ElementaryType)
    (argument : Source.Argument) :
    FailsAt location (constructed location callee type argument) := by
  unfold constructed
  split
  · split
    · exact .ok _
    · exact unsupported_failsAt _ _
  · exact .ok _
  · exact malformed_failsAt _ _

theorem infer_failsAt (initializer : Source.Initializer) :
    FailsAt location (infer location initializer) := by
  cases initializer with
  | text value => exact .ok _
  | boolean value => exact .ok _
  | call callee arguments =>
    change FailsAt location (inferCall location callee arguments)
    unfold inferCall
    split
    · exact unsupported_failsAt _ _
    · rename_i type _
      split
      · rename_i argument
        exact (constructed_failsAt location callee type argument).map
      · exact malformed_failsAt _ _
      · exact malformed_failsAt _ _
  | other kind => exact unsupported_failsAt _ _

theorem lowerVariable_failsAt (declared : Source.Variable) :
    FailsAt (.declarator (some declared.name)) (lowerVariable schema declared) := by
  obtain ⟨name, _ | initializer⟩ := declared
  · exact .ok _
  · rw [lowerVariable_initialized]
    exact (infer_failsAt (.declarator (some name)) initializer).map

theorem lowerBody_failsAt (body : List Json) : FailsAt location (lowerBody location body) :=
  .mapM fun statement _ => lowerStatementNode_failsAt location statement

end Lowerers

section Blame

variable (schema : Schema)

/-- A declarator is blamed by its name, in reading it as in lowering it. -/
theorem lowerDeclarator_blames (value : Json) :
    FailsWith (·.Blames "VariableDeclarator" (value.Identifies "id"))
      (lowerDeclarator schema value) := by
  refine (Source.Variable.read_blames value).bind_of_ok fun declared hread => ?_
  obtain ⟨_, ⟨members, identifier, hvalue, hid, hname, -⟩, -⟩ := Source.Variable.read_eq_ok.mp hread
  have hidentifies : value.Identifies "id" declared.name :=
    ⟨members, identifier, hvalue, hid, hname⟩
  exact (lowerVariable_failsAt schema declared).imp fun failure hlocation =>
    .of_name hlocation hidentifies fun other => hidentifies.unique

/-- A function is blamed by its name, in reading it as in lowering its body. -/
theorem lowerElement_blames {members : Members}
    (h : members.get? "type" = some (.text "FunctionDeclaration")) :
    FailsWith (·.Blames "FunctionDeclaration" ((Json.object members).Identifies "name"))
      (Session.lowerElement schema (.object members)) := by
  rw [lowerElement_eq_bind h]
  refine (Source.Function.read_blames members).bind_of_ok fun declared hread => ?_
  obtain ⟨identifier, _, hpart, hname, -⟩ := Source.Function.read_eq_ok.mp hread
  have hidentifies : (Json.object members).Identifies "name" declared.name :=
    ⟨members, identifier, rfl, hpart, hname⟩
  have hbody : FailsWith (·.Blames "FunctionDeclaration" ((Json.object members).Identifies "name"))
      (lowerBody (.functionDeclaration (some declared.name)) declared.body) :=
    (lowerBody_failsAt _ declared.body).imp fun failure hlocation =>
      .of_name hlocation hidentifies fun other => hidentifies.unique
  exact hbody.bind fun body => .ok _

end Blame

/-- A value that is a node of this kind. -/
def Json.IsOfKind (value : Json) (kind : String) : Prop :=
  ∃ members : Members, value = .object members ∧ members.get? "type" = some (.text kind)

section Elements

variable (schema : Schema) {value : Json} {members : Members}

theorem lowerElement_untyped (h : ¬ ∃ kind, value.IsOfKind kind) :
    ∃ failure, Session.lowerElement schema value = .error failure ∧
      failure.location = .element := by
  cases value with
  | object members =>
    cases hkind : Members.kind .element members with
    | error failure =>
      refine ⟨failure, ?_, (Members.kind_failsWith .element members).failsAt failure hkind⟩
      simp [Session.lowerElement, Source.Element.read, Json.node, hkind, bind, Except.bind]
    | ok kind => exact absurd ⟨kind, members, rfl, Members.kind_eq_ok.mp hkind⟩ h
  | _ => exact ⟨_, rfl, rfl⟩

theorem lowerElement_variableStatement
    (h : members.get? "type" = some (.text "VariableStatement")) :
    Session.lowerElement schema (.object members) =
      (fun _ => none) <$> members.sequence .variableStatement "declarations" := by
  have hkind : members.kind .element = .ok "VariableStatement" := Members.kind_eq_ok.mpr h
  simp only [Session.lowerElement, Source.Element.read, Json.node, hkind, bind, Except.bind]
  cases members.sequence .variableStatement "declarations" <;> rfl

theorem lowerElement_other {kind : String} (h : members.get? "type" = some (.text kind))
    (hvariable : kind ≠ "VariableStatement") (hfunction : kind ≠ "FunctionDeclaration") :
    Session.lowerElement schema (.object members) = .ok none := by
  rw [Session.lowerElement,
    Source.Element.read_eq_other.mpr ⟨members, rfl, h, hvariable, hfunction⟩]
  rfl

/-- A variable statement without a list of declarators fails as a whole. -/
theorem lowerElement_unlisted (h : members.get? "type" = some (.text "VariableStatement"))
    (hlist : ¬ ∃ items, members.get? "declarations" = some (.array items)) :
    ∃ failure, Session.lowerElement schema (.object members) = .error failure ∧
      failure.location = .variableStatement := by
  rw [lowerElement_variableStatement schema h]
  cases hitems : members.sequence .variableStatement "declarations" with
  | error failure =>
    exact ⟨failure, rfl, (members.sequence_failsWith _ _).failsAt failure hitems⟩
  | ok items => exact absurd ⟨items, Members.sequence_eq_ok.mp hitems⟩ hlist

end Elements

/-- What a site reports, and for what. -/
inductive Source.Site.Reports : Source.Site → Failure → Prop
  | untyped {value : Json} {failure : Failure} (untyped : ¬ ∃ kind, value.IsOfKind kind)
      (location : failure.location = .element) : Reports (.element value) failure
  | unlisted {members : Members} {failure : Failure}
      (kind : members.get? "type" = some (.text "VariableStatement"))
      (unlisted : ¬ ∃ items, members.get? "declarations" = some (.array items))
      (location : failure.location = .variableStatement) :
      Reports (.element (.object members)) failure
  | function {members : Members} {failure : Failure}
      (kind : members.get? "type" = some (.text "FunctionDeclaration"))
      (blames : failure.Blames "FunctionDeclaration" ((Json.object members).Identifies "name")) :
      Reports (.element (.object members)) failure
  | declarator {value : Json} {failure : Failure}
      (blames : failure.Blames "VariableDeclarator" (value.Identifies "id")) :
      Reports (.declarator value) failure

namespace Source.Site

variable {schema : Schema} {site : Site} {failure : Failure}

theorem reports_of_lowerElement {value : Json}
    (h : Session.lowerElement schema value = .error failure) :
    Reports (.element value) failure := by
  by_cases htyped : ∃ kind, value.IsOfKind kind
  · obtain ⟨kind, members, rfl, hkind⟩ := htyped
    by_cases hvariable : kind = "VariableStatement"
    · subst hvariable
      have hunlisted : ¬ ∃ items, members.get? "declarations" = some (.array items) := by
        rintro ⟨items, hitems⟩
        rw [lowerElement_variableStatement schema hkind, Members.sequence_eq_ok.mpr hitems] at h
        exact nomatch h
      obtain ⟨found, hfound, hlocation⟩ := lowerElement_unlisted schema hkind hunlisted
      obtain rfl : failure = found := Except.error.inj (h.symm.trans hfound)
      exact .unlisted hkind hunlisted hlocation
    · by_cases hfunction : kind = "FunctionDeclaration"
      · subst hfunction
        exact .function hkind (lowerElement_blames schema hkind failure h)
      · -- an element of another kind is skipped
        rw [lowerElement_other schema hkind hvariable hfunction] at h
        exact nomatch h
  · obtain ⟨found, hfound, hlocation⟩ := lowerElement_untyped schema htyped
    obtain rfl : failure = found := Except.error.inj (h.symm.trans hfound)
    exact .untyped htyped hlocation

theorem reports_of_failure? (h : site.failure? schema = some failure) : site.Reports failure := by
  cases site with
  | element value => exact reports_of_lowerElement (failureOf?_eq_some.mp h)
  | declarator value =>
    exact .declarator (lowerDeclarator_blames schema value _ (failureOf?_eq_some.mp h))

theorem exists_failure?_element :
    (∃ failure, site.failure? schema = some failure ∧ failure.location = .element) ↔
      ∃ value, site = .element value ∧ ¬ ∃ kind, value.IsOfKind kind := by
  constructor
  · rintro ⟨failure, hfailure, hlocation⟩
    cases reports_of_failure? hfailure with
    | untyped huntyped => exact ⟨_, rfl, huntyped⟩
    | unlisted _ _ hother => exact nomatch hother.symm.trans hlocation
    | function _ hblames => exact absurd (hlocation ▸ hblames.kind_eq) (by decide)
    | declarator hblames => exact absurd (hlocation ▸ hblames.kind_eq) (by decide)
  · rintro ⟨value, rfl, huntyped⟩
    obtain ⟨failure, hlower, hlocation⟩ := lowerElement_untyped schema huntyped
    exact ⟨failure, failureOf?_eq_some.mpr hlower, hlocation⟩

theorem exists_failure?_variableStatement :
    (∃ failure, site.failure? schema = some failure ∧ failure.location = .variableStatement) ↔
      ∃ members : Members, site = .element (.object members) ∧
        members.get? "type" = some (.text "VariableStatement") ∧
        ¬ ∃ items, members.get? "declarations" = some (.array items) := by
  constructor
  · rintro ⟨failure, hfailure, hlocation⟩
    cases reports_of_failure? hfailure with
    | untyped _ hother => exact nomatch hother.symm.trans hlocation
    | unlisted hkind hunlisted => exact ⟨_, rfl, hkind, hunlisted⟩
    | function _ hblames => exact absurd (hlocation ▸ hblames.kind_eq) (by decide)
    | declarator hblames => exact absurd (hlocation ▸ hblames.kind_eq) (by decide)
  · rintro ⟨members, rfl, hkind, hunlisted⟩
    obtain ⟨failure, hlower, hlocation⟩ := lowerElement_unlisted schema hkind hunlisted
    exact ⟨failure, failureOf?_eq_some.mpr hlower, hlocation⟩

end Source.Site

/-- The failures of a permissive pass are those of its sites. An element is located as such exactly
if it has no kind, and a variable statement exactly if it has no list of declarators. A declarator
and a function are located by their kind, and by their name exactly if they have one. -/
theorem failures_located (schema : Schema) (events : Bool) (source : Source.Contract) :
    (∃ lowering, lower schema ⟨.permissive, events⟩ source = .ok lowering ∧
      lowering.failures = source.sites.filterMap (·.failure? schema)) ∧
    ∀ site : Source.Site,
      ((∃ failure, site.failure? schema = some failure ∧ failure.location = .element) ↔
        ∃ value, site = .element value ∧ ¬ ∃ kind, value.IsOfKind kind) ∧
      ((∃ failure, site.failure? schema = some failure ∧
          failure.location = .variableStatement) ↔
        ∃ members : Members, site = .element (.object members) ∧
          members.get? "type" = some (.text "VariableStatement") ∧
          ¬ ∃ items, members.get? "declarations" = some (.array items)) ∧
      ∀ failure, site.failure? schema = some failure →
        (∀ value, site = .declarator value →
          failure.Blames "VariableDeclarator" (value.Identifies "id")) ∧
        (∀ value, site = .element value → value.IsOfKind "FunctionDeclaration" →
          failure.Blames "FunctionDeclaration" (value.Identifies "name")) ∧
        (failure.location = .element ∨ failure.location = .variableStatement ∨
          (∃ value, site = .declarator value) ∨
          ∃ value, site = .element value ∧ value.IsOfKind "FunctionDeclaration") := by
  refine ⟨⟨_, lower_permissive schema events source, gathered_failures_eq_sites schema events _⟩,
    fun site => ?_⟩
  refine ⟨Source.Site.exists_failure?_element, Source.Site.exists_failure?_variableStatement, ?_⟩
  intro failure hfailure
  refine ⟨?_, ?_, ?_⟩
  · rintro value rfl
    exact lowerDeclarator_blames schema value failure (failureOf?_eq_some.mp hfailure)
  · rintro _ rfl ⟨members, rfl, hkind⟩
    exact lowerElement_blames schema hkind failure (failureOf?_eq_some.mp hfailure)
  · cases Source.Site.reports_of_failure? hfailure with
    | untyped _ hlocation => exact .inl hlocation
    | unlisted _ _ hlocation => exact .inr (.inl hlocation)
    | function hkind => exact .inr (.inr (.inr ⟨_, rfl, _, rfl, hkind⟩))
    | declarator => exact .inr (.inr (.inl ⟨_, rfl⟩))

/-- A body with a failure of each kind: a value that is no node, a variable statement without
declarators, a number out of range, and a statement that has no counterpart. -/
theorem failures_located_mixed :
    let number : Json := .object [("value", .number (.integer 256))]
    let call : Json := .object [("arguments", .array [number]),
      ("callee", .object [("name", .text "u8")]), ("type", .text "CallExpression")]
    let declarator : Json := .object [("id", .object [("name", .text "x")]), ("initializer", call)]
    let function : Json := .object
      [("body", .array [.object [("type", .text "IfStatement")]]),
        ("name", .object [("name", .text "f")]), ("params", .array []),
        ("type", .text "FunctionDeclaration")]
    let statement (declarations : Json) : Json :=
      .object [("declarations", declarations), ("type", .text "VariableStatement")]
    let source : Source.Contract :=
      ⟨"C", [.null, statement .null, statement (.array [declarator]), function]⟩
    (∃ lowering, lower .empty ⟨.permissive, false⟩ source = .ok lowering ∧
      lowering.failures.map (·.location) = [.element, .variableStatement, .declarator (some "x"),
        .functionDeclaration (some "f")]) ∧
    ∃ failure, (Source.Site.declarator declarator).failure? .empty = some failure ∧
      failure.Blames "VariableDeclarator" (declarator.Identifies "id") := by
  intro number call declarator function statement source
  obtain ⟨⟨lowering, hlower, hfailures⟩, hsites⟩ := failures_located .empty false source
  obtain ⟨-, -, hblames⟩ := hsites (.declarator declarator)
  refine ⟨⟨lowering, hlower, ?_⟩, _, rfl, (hblames _ rfl).1 _ rfl⟩
  rw [hfailures]
  rfl

end ContractLowering
