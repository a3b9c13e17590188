import ContractLowering.Proofs.Source.Likeness

/-! # How functions are spelt

A function has an identifier with a name, parameters that are named by texts or by identifiers, and
a body that is a list of statements, a block around one, or missing. Reading succeeds exactly on
what is spelt like this. What the statements are is not looked at.
-/

namespace ContractLowering.Source

namespace Function

variable {location : Location}

theorem readName_eq_ok {part : Json} {name : String} :
    readName location part = .ok name ↔ SpellsName part name := by
  constructor
  · intro h
    cases part with
    | text s =>
      obtain rfl := Except.ok.inj h
      exact .text s
    | object identifier => exact .identifier (Members.text_eq_ok.mp h)
    | _ => exact nomatch h
  · exact readName_spelt location

/-- A node that gives the name of a parameter. -/
def SpellsParameter (value : Json) (name : String) : Prop :=
  ∃ (members : Members) (part : Json), value = .object members ∧
    members.get? "name" = some part ∧ SpellsName part name

theorem readParameter_eq_ok {value : Json} {name : String} :
    readParameter location value = .ok name ↔ SpellsParameter value name := by
  change (do readName location (← Members.required location (← value.node location) "name")) =
    .ok name ↔ _
  simp only [bind_eq_ok, Json.node_eq_ok, Members.required_eq_ok, readName_eq_ok]
  constructor
  · rintro ⟨members, hvalue, part, hpart, hname⟩
    exact ⟨members, part, hvalue, hpart, hname⟩
  · rintro ⟨members, part, hvalue, hpart, hname⟩
    exact ⟨members, hvalue, part, hpart, hname⟩

theorem readBody_eq_ok {part : Option Json} {statements : List Json} :
    readBody location part = .ok statements ↔ SpellsBody part statements := by
  constructor
  · intro h
    rcases part with _ | value
    · obtain rfl := Except.ok.inj h
      exact .missing
    cases value with
    | null =>
      obtain rfl := Except.ok.inj h
      exact .null
    | array items =>
      obtain rfl := Except.ok.inj h
      exact .list items
    | object block => exact .block (Members.sequence_eq_ok.mp h)
    | _ => exact nomatch h
  · exact readBody_spelt location

end Function

/-- The members of a node declare a function. -/
def DeclaresFunction (members : Members) (declared : Function) : Prop :=
  ∃ (identifier : Members) (parameters : List Json),
    members.get? "name" = some (.object identifier) ∧
    identifier.get? "name" = some (.text declared.name) ∧
    members.get? "params" = some (.array parameters) ∧
    List.Forall₂ Function.SpellsParameter parameters declared.parameters ∧
    Function.SpellsBody (members.get? "body") declared.body

theorem Function.read_eq_ok {members : Members} {declared : Function} :
    Function.read members = .ok declared ↔ DeclaresFunction members declared := by
  simp only [Function.read, bind_eq_ok, Members.node_eq_ok, Members.text_eq_ok,
    Members.sequence_eq_ok, mapM_eq_ok, Function.readParameter_eq_ok, Function.readBody_eq_ok,
    pure_eq_ok]
  constructor
  · rintro ⟨identifier, hidentifier, name, hname, items, hitems, parameters, hparameters, body,
      hbody, rfl⟩
    exact ⟨identifier, items, hidentifier, hname, hitems, hparameters, hbody⟩
  · rintro ⟨identifier, items, hidentifier, hname, hitems, hparameters, hbody⟩
    exact ⟨identifier, hidentifier, _, hname, items, hitems, _, hparameters, _, hbody, rfl⟩

/-- An element that says that it is a function is read as the function that it declares. -/
theorem Element.read_function {members : Members}
    (h : members.get? "type" = some (.text "FunctionDeclaration")) :
    Element.read (.object members) = Element.function <$> Function.read members := by
  have hkind : members.kind .element = .ok "FunctionDeclaration" := Members.kind_eq_ok.mpr h
  simp only [Element.read, Json.node, bind, Except.bind, hkind]
  rfl

end ContractLowering.Source
