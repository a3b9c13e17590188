import ContractLowering.Proofs.Lowering.Lookup
import ContractLowering.Proofs.Schema.Extension

/-! # Monotonicity in the schema

When a schema is extended, a pass fails where it failed before, warns about no more than before
and in the same order, and leaves every type alone that was resolved before.
-/

namespace ContractLowering

open Target (SubNode)

/-- The nodes have the same type slots, and what the first one resolves has the same type in the
second one. -/
def Target.SubNode.KeepsTypes (node node' : SubNode) : Prop :=
  List.Forall₂ (fun slot slot' => slot'.1 = slot.1 ∧ (slot.2 ≠ .unresolved → slot'.2 = slot.2))
    node.typeSlots node'.typeSlots

section Extension

variable {schema extended : Schema}

theorem Schema.Extends.typeAt_eq (h : schema.Extends extended) {slot : TypeSlot}
    (hresolved : schema.typeAt slot ≠ .unresolved) :
    extended.typeAt slot = schema.typeAt slot := by
  cases htype : schema.type? slot with
  | none => exact absurd (Schema.typeAt_of_eq_none htype) hresolved
  | some type =>
    rw [Schema.typeAt_of_eq_some htype, Schema.typeAt_of_eq_some (h.type?_eq_some htype)]

theorem Schema.Extends.stands (h : schema.Extends extended) {warning : Warning}
    (hstands : warning.stands extended = true) : warning.stands schema = true := by
  cases warning with
  | skipped kind index => rfl
  | unresolved slot =>
    cases htype : schema.type? slot with
    | none => simp [Warning.stands, htype]
    | some type => simp [Warning.stands, h.type?_eq_some htype] at hstands

theorem bareVariable_keepsTypes (h : schema.Extends extended) (name : String) :
    (SubNode.state (bareVariable schema name).node).KeepsTypes
      (.state (bareVariable extended name).node) := by
  unfold SubNode.KeepsTypes
  rw [bareVariable_typeSlots, bareVariable_typeSlots]
  exact .cons ⟨rfl, h.typeAt_eq⟩ .nil

theorem initializedVariable_keepsTypes (name : String) (inferred : Inferred) :
    (SubNode.state (initializedVariable schema name inferred)).KeepsTypes
      (.state (initializedVariable extended name inferred)) := by
  unfold SubNode.KeepsTypes
  rw [initializedVariable_typeSlots, initializedVariable_typeSlots]
  exact .cons ⟨rfl, fun _ => rfl⟩ .nil

theorem functionOf_keepsTypes (h : schema.Extends extended) (declaration : Source.Function)
    (body : List Target.Statement) :
    (SubNode.function (functionOf schema declaration body)).KeepsTypes
      (.function (functionOf extended declaration body)) := by
  unfold SubNode.KeepsTypes
  rw [functionOf_typeSlots, functionOf_typeSlots, List.forall₂_map_left_iff,
    List.forall₂_map_right_iff, List.forall₂_same]
  exact fun slot _ => ⟨rfl, h.typeAt_eq⟩

end Extension

/-- Extending the schema takes nothing back: the failures stay, the warnings that are left are
some of those before in their order, and resolved types stay what they are. -/
theorem lower_monotone {schema extended : Schema} (h : schema.Extends extended)
    (source : Source.Contract) :
    ∃ lowering later,
      lower schema ⟨.permissive, false⟩ source = .ok lowering ∧
      lower extended ⟨.permissive, false⟩ source = .ok later ∧
      later.failures = lowering.failures ∧
      later.warnings.Sublist lowering.warnings ∧
      List.Forall₂ SubNode.KeepsTypes lowering.contract.subNodes later.contract.subNodes := by
  refine ⟨_, _, lower_permissive schema false source, lower_permissive extended false source,
    gathered_failures_eq source, ?_, ?_⟩
  · rw [gathered_warnings_eq_filter, gathered_warnings_eq_filter]
    exact List.monotone_filter_right source.possibleWarnings fun _ => h.stands
  · exact forall₂_subNodes source (fun name _ => bareVariable_keepsTypes h name)
      (fun name inferred _ => initializedVariable_keepsTypes name inferred)
      fun declaration body _ => functionOf_keepsTypes h declaration body

/-- Entries of names that are there, before and behind entries of new ones, and a function of
which the type of the result is added. -/
theorem lower_monotone_repeated :
    let declarator (name : String) : Json := .object [("id", .object [("name", .text name)])]
    let statement : Json := .object
      [("declarations", .array [declarator "u", .null, declarator "v"]),
        ("type", .text "VariableStatement")]
    let function : Json := .object [("name", .object [("name", .text "f")]),
      ("params", .array [.object [("name", .text "p")], .object [("name", .text "q")]]),
      ("type", .text "FunctionDeclaration")]
    let source : Source.Contract := ⟨"C", [statement, function]⟩
    let known : Schema.Definition := ⟨"f", [], none, [⟨"p", "bool"⟩], []⟩
    let typed : Schema.Definition := { known with type := some "u8" }
    let schema : Schema := ⟨[⟨"u", "u8", false⟩], [known], []⟩
    let extended : Schema :=
      ⟨[⟨"u", "u8", false⟩, ⟨"u", "bool", false⟩, ⟨"v", "", false⟩],
        [{ typed with parameters := [⟨"p", "bool"⟩, ⟨"p", "address"⟩] },
          ⟨"f", ["view"], none, [⟨"q", "u8"⟩], []⟩], [("Sent", [])]⟩
    schema.Extends extended ∧
    ∃ lowering later,
      lower schema ⟨.permissive, false⟩ source = .ok lowering ∧
      lower extended ⟨.permissive, false⟩ source = .ok later ∧
      lowering.warnings = [.unresolved (.state "v"), .unresolved (.parameter "f" "q"),
        .unresolved (.result "f")] ∧
      later.warnings = [.unresolved (.parameter "f" "q")] ∧
      later.failures = lowering.failures ∧ later.warnings.Sublist lowering.warnings ∧
      List.Forall₂ SubNode.KeepsTypes lowering.contract.subNodes later.contract.subNodes := by
  intro declarator statement function source known typed schema extended
  have hextends : schema.Extends extended := by
    refine .trans (.single (.state _ [⟨"u", "bool", false⟩, ⟨"v", "", false⟩])) ?_
    refine .trans (.single (.definition _ [] [] _ (.type rfl "u8"))) ?_
    refine .trans (.single (.definition _ [] [] _ (.parameters _ [⟨"p", "address"⟩]))) ?_
    refine .trans (.single (.definitions _ [⟨"f", ["view"], none, [⟨"q", "u8"⟩], []⟩])) ?_
    exact .single (.events _ [("Sent", [])])
  obtain ⟨lowering, later, hlowering, hlater, hrest⟩ := lower_monotone hextends source
  have hfirst : lowering.warnings = [.unresolved (.state "v"), .unresolved (.parameter "f" "q"),
      .unresolved (.result "f")] := by
    rw [lower_eq_ok hlowering]
    decide
  have hsecond : later.warnings = [.unresolved (.parameter "f" "q")] := by
    rw [lower_eq_ok hlater]
    decide
  exact ⟨hextends, lowering, later, hlowering, hlater, hfirst, hsecond, hrest⟩

end ContractLowering
