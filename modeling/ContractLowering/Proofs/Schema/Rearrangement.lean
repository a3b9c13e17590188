import ContractLowering.Schema.Basic
import ContractLowering.Target.Contract
import Mathlib.Data.List.Nodup
import Mathlib.Logic.Relation

/-! # Rearrangements of schemas

A schema is asked for the first entry of a name, and a definition for its type, for the first of its
keywords that is a visibility or a mutability, and for the first parameter of a name. Entries may be
put in another order if their names differ, and repeated names, words that are no keywords, locals
and events may be added, without any of these answers changing.
-/

namespace ContractLowering

/-- Changes of a list that keep the first item of each name. -/
inductive KeepsFirst {α : Type} (name : α → String) : List α → List α → Prop
  | permuted {items others : List α} (distinct : (items.map name).Nodup) (perm : items.Perm others) :
      KeepsFirst name items others
  | repeated {items : List α} {item : α} (known : name item ∈ items.map name) :
      KeepsFirst name items (items ++ [item])

section Names

variable {α : Type} {name : α → String} {items others : List α} {key : String}

theorem find?_name_eq_some (hdistinct : (items.map name).Nodup) {item : α} :
    items.find? (fun other => name other = key) = some item ↔ item ∈ items ∧ name item = key := by
  constructor
  · intro h
    exact ⟨List.mem_of_find?_eq_some h, by simpa using List.find?_some h⟩
  · rintro ⟨hitem, rfl⟩
    cases hfound : items.find? fun other => name other = name item with
    | none => exact absurd (List.find?_eq_none.mp hfound item hitem) (by simp)
    | some found =>
      have hname : name found = name item := by simpa using List.find?_some hfound
      rw [List.inj_on_of_nodup_map hdistinct (List.mem_of_find?_eq_some hfound) hitem hname]

theorem KeepsFirst.find?_eq (h : KeepsFirst name items others) (key : String) :
    (others.find? fun item => name item = key) = items.find? fun item => name item = key := by
  cases h with
  | permuted hdistinct hperm =>
    have hdistinct' : (others.map name).Nodup := (hperm.map name).nodup_iff.mp hdistinct
    apply Option.ext
    intro item
    rw [find?_name_eq_some hdistinct, find?_name_eq_some hdistinct', hperm.mem_iff]
  | @repeated item hknown =>
    -- the added item is reached only if nothing was found before, and then it has another name
    rw [List.find?_append]
    cases hfound : items.find? fun item => name item = key with
    | some found => rfl
    | none =>
      have hother : name item ≠ key := by
        rintro rfl
        obtain ⟨earlier, hearlier, hname⟩ := List.mem_map.mp hknown
        exact absurd (List.find?_eq_none.mp hfound earlier hearlier) (by simp [hname])
      simp [hother]

end Names

namespace Schema

/-- What a definition answers, for each name of a parameter. -/
structure Definition.Answers where
  type : Option String
  visibility : Option Target.Visibility
  mutability : Option Target.Mutability
  parameter : String → Option String

def Definition.answers (definition : Definition) : Definition.Answers where
  type := definition.type
  visibility := definition.keywords.findSome? Target.Visibility.ofKeyword?
  mutability := definition.keywords.findSome? Target.Mutability.ofKeyword?
  parameter name := (definition.parameter? name).map (·.type)

/-- Under each name two schemas answer alike. -/
structure AnswersAlike (first second : Schema) : Prop where
  state : ∀ name, (second.stateVariable? name).map (fun entry => (entry.type, entry.payable)) =
    (first.stateVariable? name).map fun entry => (entry.type, entry.payable)
  definitions : ∀ name, (second.definition? name).map Definition.answers =
    (first.definition? name).map Definition.answers

namespace AnswersAlike

variable {first second third : Schema}

theorem refl (schema : Schema) : schema.AnswersAlike schema where
  state _ := rfl
  definitions _ := rfl

theorem symm (h : first.AnswersAlike second) : second.AnswersAlike first where
  state name := (h.state name).symm
  definitions name := (h.definitions name).symm

theorem trans (h : first.AnswersAlike second) (h' : second.AnswersAlike third) :
    first.AnswersAlike third where
  state name := (h'.state name).trans (h.state name)
  definitions name := (h'.definitions name).trans (h.definitions name)

theorem payable_eq (h : first.AnswersAlike second) (name : String) :
    (second.stateVariable? name).any (·.payable) =
      (first.stateVariable? name).any (·.payable) := by
  have hstate := congrArg (Option.any Prod.snd) (h.state name)
  rwa [Option.any_map, Option.any_map] at hstate

/-- What is told from the answers of the first definition of a name is told alike. -/
theorem bind_answers_eq (h : first.AnswersAlike second) {α : Type}
    (answer : Definition.Answers → Option α) (name : String) :
    ((second.definition? name).bind fun definition => answer definition.answers) =
      (first.definition? name).bind fun definition => answer definition.answers := by
  have hdefinitions := congrArg (Option.bind · answer) (h.definitions name)
  rwa [Option.bind_map, Option.bind_map] at hdefinitions

end AnswersAlike

/-- One rearrangement of a definition: of its parameters, by a word that is no keyword, or of its
locals in any way. -/
inductive Definition.Rearranges : Definition → Definition → Prop
  | parameters (definition : Definition) {parameters : List TypedName}
      (keeps : KeepsFirst (·.name) definition.parameters parameters) :
      Rearranges definition { definition with parameters := parameters }
  | word {definition : Definition} (before after : List String) {word : String}
      (keywords : definition.keywords = before ++ after)
      (noVisibility : Target.Visibility.ofKeyword? word = none)
      (noMutability : Target.Mutability.ofKeyword? word = none) :
      Rearranges definition { definition with keywords := before ++ word :: after }
  | locals (definition : Definition) (locals : List LocalEntry) :
      Rearranges definition { definition with locals := locals }

/-- One rearrangement of a schema, in which events may change in any way. -/
inductive Rearranges : Schema → Schema → Prop
  | state (schema : Schema) {state : List StateEntry}
      (keeps : KeepsFirst (·.name) schema.state state) :
      Rearranges schema { schema with state := state }
  | definitions (schema : Schema) {definitions : List Definition}
      (keeps : KeepsFirst (·.name) schema.definitions definitions) :
      Rearranges schema { schema with definitions := definitions }
  | definition (schema : Schema) (before after : List Definition) {definition changed : Definition}
      (definitions : schema.definitions = before ++ definition :: after)
      (rearranges : definition.Rearranges changed) :
      Rearranges schema { schema with definitions := before ++ changed :: after }
  | events (schema : Schema) (events : List (String × List TypedName)) :
      Rearranges schema { schema with events := events }

section Steps

variable {definition changed : Definition}

theorem Definition.Rearranges.name_eq (h : definition.Rearranges changed) :
    changed.name = definition.name := by
  cases h <;> rfl

theorem Definition.Rearranges.answers_eq (h : definition.Rearranges changed) :
    changed.answers = definition.answers := by
  cases h with
  | parameters hkeeps =>
    simp only [Definition.answers, Definition.parameter?, hkeeps.find?_eq]
  | word before after hkeywords hvisibility hmutability =>
    simp only [Definition.answers, Definition.parameter?, hkeywords, List.findSome?_append,
      List.findSome?_cons, hvisibility, hmutability]
  | locals => rfl

/-- The first definition of a name stays where it is, or changes into one that answers alike. -/
theorem find?_replaced (before after : List Definition) (h : definition.Rearranges changed)
    (name : String) :
    ((before ++ changed :: after).find? fun found => found.name = name).map Definition.answers =
      ((before ++ definition :: after).find? fun found => found.name = name).map
        Definition.answers := by
  rw [List.find?_append, List.find?_append]
  cases before.find? fun found => found.name = name with
  | some found => rfl
  | none =>
    simp only [Option.none_or, List.find?_cons, h.name_eq]
    split
    · exact congrArg some h.answers_eq
    · rfl

theorem Rearranges.answersAlike {schema other : Schema} (h : schema.Rearranges other) :
    schema.AnswersAlike other := by
  cases h with
  | state hkeeps =>
    refine ⟨fun name => ?_, fun _ => rfl⟩
    exact congrArg _ (hkeeps.find?_eq name)
  | definitions hkeeps =>
    refine ⟨fun _ => rfl, fun name => ?_⟩
    exact congrArg _ (hkeeps.find?_eq name)
  | definition before after hdefinitions hrearranges =>
    refine ⟨fun _ => rfl, fun name => ?_⟩
    unfold definition?
    rw [hdefinitions]
    exact find?_replaced before after hrearranges name
  | events => exact ⟨fun _ => rfl, fun _ => rfl⟩

/-- After any number of rearrangements, made or taken back, a schema answers as before. -/
theorem answersAlike_of_eqvGen {first second : Schema}
    (h : Relation.EqvGen Rearranges first second) : first.AnswersAlike second := by
  induction h with
  | rel _ _ hstep => exact hstep.answersAlike
  | refl schema => exact .refl schema
  | symm _ _ _ ih => exact ih.symm
  | trans _ _ _ _ _ ih ih' => exact ih.trans ih'

end Steps

end Schema

end ContractLowering
