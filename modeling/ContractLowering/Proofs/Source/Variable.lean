import ContractLowering.Proofs.Source.Rejection

/-! # How declarators are spelt

A declarator is a node with an identifier that has a name and, unless it is missing or `null`,
an initializer. Reading succeeds exactly on what is spelt like this, and fails as malformed
on everything else.
-/

namespace ContractLowering.Source

/-- What the node of an argument is reduced to. -/
def Argument.ofNode (node : Members) : Argument :=
  match node.get? "value" with
  | some (.number n) => .number n
  | some (.text s) => .text s
  | _ => .other (node.kind?.getD "unknown")

namespace Argument

variable {location : Location} {node : Members}

theorem ofNode_eq_number {n : Number} :
    ofNode node = .number n ↔ node.get? "value" = some (.number n) := by
  unfold ofNode
  split <;> simp_all

theorem ofNode_eq_text {s : String} :
    ofNode node = .text s ↔ node.get? "value" = some (.text s) := by
  unfold ofNode
  split <;> simp_all

theorem read_object : read location (.object node) = .ok (ofNode node) := by
  simp only [read, Json.node, bind, Except.bind, pure, Except.pure, ofNode]
  cases node.get? "value" with
  | none => rfl
  | some value => cases value <;> rfl

theorem read_eq_ok {value : Json} {argument : Argument} :
    read location value = .ok argument ↔
      ∃ node : Members, value = .object node ∧ argument = ofNode node := by
  constructor
  · intro h
    obtain ⟨node, hvalue, _⟩ := bind_eq_ok.mp h
    rw [Json.node_eq_ok] at hvalue
    subst hvalue
    rw [read_object, Except.ok.injEq] at h
    exact ⟨node, rfl, h.symm⟩
  · rintro ⟨node, rfl, rfl⟩
    exact read_object

theorem read_failsWith (location : Location) (value : Json) :
    FailsWith (·.IsMalformedAt location) (read location value) := by
  cases value with
  | object node =>
    rw [read_object]
    exact .ok _
  | _ => exact malformed_failsWith _ _

/-- Arguments can be read exactly when all of them are nodes. -/
theorem mapM_read_eq_ok {items : List Json} {arguments : List Argument} :
    items.mapM (read location) = .ok arguments ↔
      ∃ nodes : List Members, items = nodes.map .object ∧ arguments = nodes.map ofNode := by
  rw [mapM_eq_ok]
  constructor
  · intro h
    induction h with
    | nil => exact ⟨[], rfl, rfl⟩
    | cons hitem _ ih =>
      obtain ⟨node, rfl, rfl⟩ := read_eq_ok.mp hitem
      obtain ⟨nodes, rfl, rfl⟩ := ih
      exact ⟨node :: nodes, rfl, rfl⟩
  · rintro ⟨nodes, rfl, rfl⟩
    induction nodes with
    | nil => exact .nil
    | cons node nodes ih => exact .cons read_object ih

end Argument

/-- A node that calls a callee on nodes. -/
def Calls (value : Json) (callee : String) (arguments : List Members) : Prop :=
  ∃ members identifier : Members, value = .object members ∧
    members.get? "type" = some (.text "CallExpression") ∧
    members.get? "callee" = some (.object identifier) ∧
    identifier.get? "name" = some (.text callee) ∧
    members.get? "arguments" = some (.array (arguments.map .object))

/-- The kinds of initializers that are taken apart. -/
def initializerKinds : List String :=
  ["StringLiteral", "BooleanLiteral", "CallExpression"]

namespace Initializer

/-- How an initializer is spelt. -/
inductive Spelt : Json → Initializer → Prop
  | text {members : Members} {s : String}
      (kind : members.get? "type" = some (.text "StringLiteral"))
      (value : members.get? "value" = some (.text s)) : Spelt (.object members) (.text s)
  | boolean {members : Members} {b : Bool}
      (kind : members.get? "type" = some (.text "BooleanLiteral"))
      (value : members.get? "value" = some (.boolean b)) : Spelt (.object members) (.boolean b)
  | call {value : Json} {callee : String} {arguments : List Members}
      (calls : Calls value callee arguments) :
      Spelt value (.call callee (arguments.map Argument.ofNode))
  | other {members : Members} {kind : String} (kind_eq : members.get? "type" = some (.text kind))
      (unknown : kind ∉ initializerKinds) : Spelt (.object members) (.other kind)

theorem read_eq_ok {location : Location} {value : Json} {initializer : Initializer} :
    read location value = .ok initializer ↔ Spelt value initializer := by
  constructor
  · intro h
    simp only [read, bind_eq_ok, Json.node_eq_ok, Members.kind_eq_ok] at h
    obtain ⟨members, rfl, kind, hkind, h⟩ := h
    split at h
    · rename_i htext
      simp only [bind_eq_ok, Members.text_eq_ok, pure_eq_ok] at h
      obtain ⟨s, hs, rfl⟩ := h
      exact .text (htext ▸ hkind) hs
    · split at h
      · rename_i hboolean
        simp only [bind_eq_ok, Members.required_eq_ok] at h
        obtain ⟨found, hfound, h⟩ := h
        cases found with
        | boolean b =>
          simp only [pure_eq_ok] at h
          subst h
          exact .boolean (hboolean ▸ hkind) hfound
        | _ => simp [malformed] at h
      · split at h
        · rename_i hcall
          simp only [bind_eq_ok, Members.node_eq_ok, Members.text_eq_ok, Members.sequence_eq_ok,
            Argument.mapM_read_eq_ok, pure_eq_ok] at h
          obtain ⟨identifier, hcallee, callee, hname, items, hitems, _, ⟨nodes, rfl, rfl⟩, rfl⟩ := h
          exact .call ⟨members, identifier, rfl, hcall ▸ hkind, hcallee, hname, hitems⟩
        · simp only [pure_eq_ok] at h
          subst h
          exact .other hkind (by simp_all [initializerKinds])
  · intro h
    simp only [read, bind_eq_ok, Json.node_eq_ok, Members.kind_eq_ok]
    cases h with
    | text hkind hvalue =>
      refine ⟨_, rfl, _, hkind, ?_⟩
      rw [if_pos rfl]
      exact bind_eq_ok.mpr ⟨_, Members.text_eq_ok.mpr hvalue, rfl⟩
    | boolean hkind hvalue =>
      refine ⟨_, rfl, _, hkind, ?_⟩
      rw [if_neg (by decide), if_pos rfl]
      exact bind_eq_ok.mpr ⟨_, Members.required_eq_ok.mpr hvalue, rfl⟩
    | call hcalls =>
      obtain ⟨members, identifier, rfl, hkind, hcallee, hname, harguments⟩ := hcalls
      refine ⟨_, rfl, _, hkind, ?_⟩
      rw [if_neg (by decide), if_neg (by decide), if_pos rfl]
      simp only [bind_eq_ok, Members.node_eq_ok, Members.text_eq_ok, Members.sequence_eq_ok,
        Argument.mapM_read_eq_ok, pure_eq_ok]
      exact ⟨identifier, hcallee, _, hname, _, harguments, _, ⟨_, rfl, rfl⟩, rfl⟩
    | other hkind hunknown =>
      simp only [initializerKinds, List.mem_cons, List.not_mem_nil, or_false, not_or] at hunknown
      obtain ⟨htext, hboolean, hcall⟩ := hunknown
      refine ⟨_, rfl, _, hkind, ?_⟩
      rw [if_neg htext, if_neg hboolean, if_neg hcall]
      rfl

theorem read_failsWith (location : Location) (value : Json) :
    FailsWith (·.IsMalformedAt location) (read location value) := by
  refine (value.node_failsWith location).bind fun members => ?_
  refine (members.text_failsWith location "type").bind fun kind => ?_
  split_ifs
  · exact (members.text_failsWith location "value").bind fun _ => .ok _
  · refine (members.required_failsWith location "value").bind fun found => ?_
    cases found with
    | boolean b => exact .ok _
    | _ => exact malformed_failsWith _ _
  · refine (members.node_failsWith location "callee").bind fun identifier => ?_
    refine (identifier.text_failsWith location "name").bind fun callee => ?_
    refine (members.sequence_failsWith location "arguments").bind fun items => ?_
    exact (FailsWith.mapM fun item _ => Argument.read_failsWith location item).bind fun _ => .ok _
  · exact .ok _

end Initializer

/-- A part that is missing or `null` is not given. -/
def given? : Option Json → Option Json
  | some .null => none
  | part => part

/-- A value that declares a variable of this name, with this initializer if one is given. -/
def Declares (value : Json) (name : String) (initializer : Option Json) : Prop :=
  ∃ members identifier : Members, value = .object members ∧
    members.get? "id" = some (.object identifier) ∧
    identifier.get? "name" = some (.text name) ∧
    given? (members.get? "initializer") = initializer

namespace Initializer

variable {location : Location} {part : Option Json}

theorem readOptional_eq_ok {initializer : Option Initializer} :
    readOptional location part = .ok initializer ↔ Option.Rel Spelt (given? part) initializer := by
  have hnone : (.ok none : Except Failure (Option Initializer)) = .ok initializer ↔
      Option.Rel Spelt none initializer := by
    cases initializer <;> simp
  have hsome (value : Json) : (do return some (← read location value)) = .ok initializer ↔
      Option.Rel Spelt (some value) initializer := by
    simp only [bind_eq_ok, read_eq_ok, pure_eq_ok]
    cases initializer <;> simp
  cases part with
  | none => exact hnone
  | some value =>
    cases value with
    | null => exact hnone
    | _ => exact hsome _

theorem readOptional_failsWith :
    FailsWith (·.IsMalformedAt location) (readOptional location part) := by
  cases part with
  | none => exact .ok _
  | some value =>
    cases value with
    | null => exact .ok _
    | _ => exact (read_failsWith location _).bind fun _ => .ok _

end Initializer

namespace Variable

theorem read_eq_ok {value : Json} {name : String} {initializer : Option Initializer} :
    read value = .ok ⟨name, initializer⟩ ↔
      ∃ part, Declares value name part ∧ Option.Rel Initializer.Spelt part initializer := by
  simp only [read, bind_eq_ok, Json.node_eq_ok, Members.node_eq_ok, Members.text_eq_ok,
    Initializer.readOptional_eq_ok, pure_eq_ok, mk.injEq]
  constructor
  · rintro ⟨members, hvalue, identifier, hid, _, hname, _, hinitializer, rfl, rfl⟩
    exact ⟨_, ⟨members, identifier, hvalue, hid, hname, rfl⟩, hinitializer⟩
  · rintro ⟨_, ⟨members, identifier, hvalue, hid, hname, rfl⟩, hinitializer⟩
    exact ⟨members, hvalue, identifier, hid, name, hname, initializer, hinitializer, rfl, rfl⟩

/-- A declarator that cannot be read is malformed. -/
theorem read_failsWith (value : Json) :
    FailsWith (fun failure => ∃ location, failure.IsMalformedAt location) (read value) := by
  have hanywhere {α : Type} {result : Except Failure α} {location : Location}
      (h : FailsWith (·.IsMalformedAt location) result) :
      FailsWith (fun failure => ∃ location, failure.IsMalformedAt location) result :=
    fun failure hfailure => ⟨location, h failure hfailure⟩
  refine (hanywhere (value.node_failsWith _)).bind fun members => ?_
  refine (hanywhere (members.node_failsWith _ "id")).bind fun identifier => ?_
  refine (hanywhere (identifier.text_failsWith _ "name")).bind fun name => ?_
  exact (hanywhere Initializer.readOptional_failsWith).bind fun _ => .ok _

end Variable

end ContractLowering.Source
