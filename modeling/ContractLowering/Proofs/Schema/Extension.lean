import ContractLowering.Proofs.Lowering.TypeSlot
import Mathlib.Logic.Relation

/-! # Extensions of schemas

A schema is extended by further entries behind those that are there, and by types where there are
none. Since names are looked up from the front, every type that was given before is given still,
however many extensions follow one another and whatever names they repeat.
-/

namespace ContractLowering.Schema

/-- One extension of a definition. The locals may change, for nothing reads them. -/
inductive Definition.Grows : Definition → Definition → Prop
  | parameters (definition : Definition) (added : List TypedName) :
      Grows definition { definition with parameters := definition.parameters ++ added }
  | type {definition : Definition} (untyped : definition.type = none) (type : String) :
      Grows definition { definition with type := some type }
  | locals (definition : Definition) (changed : List LocalEntry) :
      Grows definition { definition with locals := changed }

/-- One extension of a schema, of which the events may change. -/
inductive Grows : Schema → Schema → Prop
  | state (schema : Schema) (added : List StateEntry) :
      Grows schema { schema with state := schema.state ++ added }
  | definitions (schema : Schema) (added : List Definition) :
      Grows schema { schema with definitions := schema.definitions ++ added }
  | definition (state : List StateEntry) (front back : List Definition)
      (events : List (String × List TypedName)) {definition extended : Definition}
      (grows : definition.Grows extended) :
      Grows ⟨state, front ++ definition :: back, events⟩ ⟨state, front ++ extended :: back, events⟩
  | events (schema : Schema) (changed : List (String × List TypedName)) :
      Grows schema { schema with events := changed }

/-- Any number of extensions. -/
def Extends : Schema → Schema → Prop :=
  Relation.ReflTransGen Grows

namespace Definition.Grows

variable {definition extended : Definition}

theorem name (h : definition.Grows extended) : extended.name = definition.name := by
  cases h <;> rfl

theorem type_eq_some (h : definition.Grows extended) {type : String}
    (htype : definition.type = some type) : extended.type = some type := by
  cases h with
  | parameters added => exact htype
  | type huntyped given => rw [huntyped] at htype; exact nomatch htype
  | locals changed => exact htype

theorem parameter?_eq_some (h : definition.Grows extended) {name : String} {found : TypedName}
    (hfound : definition.parameter? name = some found) :
    extended.parameter? name = some found := by
  cases h with
  | parameters added =>
    unfold parameter? at hfound ⊢
    rw [List.find?_append, hfound, Option.some_or]
  | type huntyped given => exact hfound
  | locals changed => exact hfound

end Definition.Grows

namespace Grows

variable {schema extended : Schema}

theorem stateVariable?_eq_some (h : schema.Grows extended) {name : String} {found : StateEntry}
    (hfound : schema.stateVariable? name = some found) :
    extended.stateVariable? name = some found := by
  cases h with
  | state added =>
    unfold stateVariable? at hfound ⊢
    rw [List.find?_append, hfound, Option.some_or]
  | definitions added => exact hfound
  | definition state front back events grows => exact hfound
  | events changed => exact hfound

/-- The first definition of a name stays the first one, and may itself be extended. -/
theorem definition?_eq_some (h : schema.Grows extended) {name : String} {found : Definition}
    (hfound : schema.definition? name = some found) :
    ∃ kept, extended.definition? name = some kept ∧ (kept = found ∨ found.Grows kept) := by
  cases h with
  | state added => exact ⟨found, hfound, .inl rfl⟩
  | definitions added =>
    unfold definition? at hfound ⊢
    exact ⟨found, by rw [List.find?_append, hfound, Option.some_or], .inl rfl⟩
  | definition state front back events grows =>
    unfold definition? at hfound ⊢
    simp only [List.find?_append, List.find?_cons, grows.name] at hfound ⊢
    -- a definition in front of the one that grows hides it
    cases hfront : front.find? fun definition => definition.name = name with
    | some first =>
      rw [hfront, Option.some_or] at hfound
      exact ⟨found, by rw [Option.some_or, hfound], .inl rfl⟩
    | none =>
      rw [hfront, Option.none_or] at hfound
      rw [Option.none_or]
      split at hfound
      · cases hfound
        exact ⟨_, rfl, .inr grows⟩
      · exact ⟨found, hfound, .inl rfl⟩
  | events changed => exact ⟨found, hfound, .inl rfl⟩

theorem type?_eq_some (h : schema.Grows extended) {slot : TypeSlot} {type : String}
    (htype : schema.type? slot = some type) : extended.type? slot = some type := by
  cases slot with
  | state name =>
    obtain ⟨found, hfound, rfl⟩ := Option.map_eq_some_iff.mp htype
    exact Option.map_eq_some_iff.mpr ⟨found, h.stateVariable?_eq_some hfound, rfl⟩
  | parameter function name =>
    obtain ⟨parameter, hparameter, rfl⟩ := Option.map_eq_some_iff.mp htype
    obtain ⟨found, hfound, hparameter⟩ := Option.bind_eq_some_iff.mp hparameter
    obtain ⟨kept, hkept, rfl | hgrows⟩ := h.definition?_eq_some hfound
    · simp [type?, hkept, hparameter]
    · simp [type?, hkept, hgrows.parameter?_eq_some hparameter]
  | result function =>
    obtain ⟨found, hfound, hresult⟩ := Option.bind_eq_some_iff.mp htype
    obtain ⟨kept, hkept, rfl | hgrows⟩ := h.definition?_eq_some hfound
    · exact Option.bind_eq_some_iff.mpr ⟨_, hkept, hresult⟩
    · exact Option.bind_eq_some_iff.mpr ⟨kept, hkept, hgrows.type_eq_some hresult⟩

end Grows

theorem Extends.type?_eq_some {schema extended : Schema} (h : schema.Extends extended)
    {slot : TypeSlot} {type : String} (htype : schema.type? slot = some type) :
    extended.type? slot = some type := by
  induction h with
  | refl => exact htype
  | tail _ hgrows ih => exact hgrows.type?_eq_some ih

end ContractLowering.Schema
