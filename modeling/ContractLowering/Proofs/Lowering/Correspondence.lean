import ContractLowering.Proofs.Lowering.Names
import ContractLowering.Proofs.Source.Likeness

/-! # Lowerings that correspond

Contracts whose elements are alike up to a change of names have lowerings that differ by this
change, if it keeps names apart: names are compared and passed on, and never looked into. Without
any change of names, contracts with alike elements have the same lowering.
-/

namespace ContractLowering

section Nodes

open Source (Argument Initializer StatementAlike DeclaratorAlike ElementAlike Part)

variable {r : String → String} (location : Location)

theorem constructed_agree {callee : String} {type : Target.ElementaryType}
    {argument other : Argument} (h : argument.Agrees other) :
    Agree r Eq (constructed location callee type argument)
      (constructed (location.rename r) callee type other) := by
  cases h with
  | same =>
    unfold constructed
    split
    · split
      · exact .ok rfl
      · exact .unsupported location _
    · exact .ok rfl
    · exact .malformed location _
  | number hfirst hsecond hrange =>
    cases type with
    | uint8 =>
      simp only [constructed, uint8Numeral?_eq_some.mpr ⟨_, hfirst, hrange, rfl⟩,
        uint8Numeral?_eq_some.mpr ⟨_, hsecond, hrange, rfl⟩]
      exact .ok rfl
    | _ => exact .malformed location _

theorem inferCall_agree {callee : String} {arguments others : List Argument}
    (h : List.Forall₂ Argument.Agrees arguments others) :
    Agree r Eq (inferCall location callee arguments)
      (inferCall (location.rename r) callee others) := by
  unfold inferCall
  cases Target.ElementaryType.ofConstructor? callee with
  | none => exact .unsupported location _
  | some type =>
    cases h with
    | nil => exact .malformed location _
    | cons hargument hlater =>
      cases hlater with
      | nil =>
        refine (constructed_agree location hargument).map fun literal other hliteral => ?_
        rw [hliteral]
      | cons hsecond hlater =>
        simp only [List.length_cons, hlater.length_eq]
        exact .malformed location _

theorem infer_agree {initializer other : Initializer} (h : initializer.Agrees other) :
    Agree r Eq (infer location initializer) (infer (location.rename r) other) := by
  cases h with
  | call callee h => exact inferCall_agree location h
  | same =>
    cases initializer with
    | text value => exact .ok rfl
    | boolean value => exact .ok rfl
    | call callee arguments =>
      exact inferCall_agree location (List.forall₂_same.mpr fun argument _ => .same argument)
    | other kind => exact .unsupported location _

theorem lowerStatement_agree (statement : Source.Statement) :
    Agree r (fun lowered other => other = lowered.rename r) (lowerStatement location statement)
      (lowerStatement (location.rename r) (statement.rename r)) := by
  cases statement with
  | returnBinary operator left right => exact .ok rfl
  | returnOther kind => exact .unsupported location _
  | other kind => exact .unsupported location _

theorem lowerBody_agree {body others : List Json}
    (h : List.Forall₂ (StatementAlike r) body others) :
    Agree r (fun lowered other => other = lowered.map (.rename r)) (lowerBody location body)
      (lowerBody (location.rename r) others) := by
  refine (Agree.mapM (h.imp fun statement other halike => ?_)).imp fun _ _ => eq_map_of_forall₂
  refine (Source.Statement.read_agree location halike).bind fun read _ hread => ?_
  rw [hread]
  exact lowerStatement_agree location read

variable (hr : Function.Injective r) (schema : Schema)

include hr

/-- A slot is filled alike, and what is warned about is changed with it. -/
theorem resolve_type?_rename (slot : TypeSlot) :
    resolve (slot.rename r) ((schema.rename r).type? (slot.rename r)) =
      (resolve slot (schema.type? slot)).rename r id := by
  rw [schema.type?_rename hr]
  cases schema.type? slot <;> rfl

theorem bareVariable_rename (name : String) :
    bareVariable (schema.rename r) (r name) =
      (bareVariable schema name).rename r (.rename r) := by
  have htype : variableType (schema.rename r) (r name) =
      (variableType schema name).rename r id := resolve_type?_rename hr schema (.state name)
  simp only [bareVariable, htype, Lowered.rename, id, markPayable_rename hr]
  rfl

theorem lowerVariable_agree {declared other : Source.Variable} (h : declared.Agrees r other) :
    Agree r (fun lowered other => other = lowered.rename r (.rename r))
      (lowerVariable schema declared) (lowerVariable (schema.rename r) other) := by
  obtain ⟨name, initializer⟩ := declared
  obtain ⟨_, other⟩ := other
  obtain ⟨rfl, hinitializer⟩ := h
  cases hinitializer with
  | none =>
    rw [lowerVariable_bare, lowerVariable_bare]
    exact .ok (bareVariable_rename hr schema name)
  | some hagrees =>
    rw [lowerVariable_initialized, lowerVariable_initialized]
    refine (infer_agree (.declarator (some name)) hagrees).map fun inferred _ hinferred => ?_
    rw [← hinferred, initializedVariable, markPayable_rename hr]
    rfl

theorem lowerDeclarator_agree {value other : Json} (h : DeclaratorAlike r value other) :
    Agree r (fun lowered other => other = lowered.rename r (.rename r))
      (lowerDeclarator schema value) (lowerDeclarator (schema.rename r) other) :=
  (Source.Variable.read_agree h).bind fun _ _ hread => lowerVariable_agree hr schema hread

theorem functionWarnings_rename {function other : Source.Function} (h : function.Agrees r other) :
    functionWarnings (schema.rename r) other =
      (functionWarnings schema function).map (Warning.rename r) := by
  have hslots : other.typeSlots = function.typeSlots.map (.rename r) := by
    simp [Source.Function.typeSlots, h.name, h.parameters, TypeSlot.rename]
  rw [functionWarnings_eq_flatMap, functionWarnings_eq_flatMap, hslots, List.flatMap_map,
    List.map_flatMap]
  refine List.flatMap_congr fun slot _ => ?_
  rw [resolve_type?_rename hr]
  rfl

theorem loweredParameters_rename {function other : Source.Function} (h : function.Agrees r other) :
    (loweredParameters (schema.rename r) other).map (·.node) =
      ((loweredParameters schema function).map (·.node)).map (.rename r) := by
  simp only [loweredParameters, h.name, h.parameters, List.map_map]
  refine List.map_congr_left fun name _ => ?_
  have htype := resolve_type?_rename hr schema (.parameter function.name name)
  exact congrArg (fun type => Target.Variable.parameter (r name) (.plain type.node)) htype

theorem functionOf_rename {function other : Source.Function} (h : function.Agrees r other)
    (body : List Target.Statement) :
    functionOf (schema.rename r) other (body.map (.rename r)) =
      (functionOf schema function body).rename r := by
  have hresult : resultType (schema.rename r) (r function.name) =
      (resultType schema function.name).rename r id :=
    resolve_type?_rename hr schema (.result function.name)
  simp only [functionOf, loweredParameters_rename hr schema h, h.name, hresult,
    functionKeywords_rename hr]
  rfl

theorem lowerFunction_agree {function other : Source.Function} (h : function.Agrees r other) :
    Agree r (fun lowered other => other = lowered.rename r (.rename r))
      (lowerFunction schema function) (lowerFunction (schema.rename r) other) := by
  rw [lowerFunction_eq_map, lowerFunction_eq_map, h.name]
  refine (lowerBody_agree (.functionDeclaration (some function.name)) h.body).map
    fun body _ hbody => ?_
  rw [hbody, functionOf_rename hr schema h, functionWarnings_rename hr schema h]
  rfl

end Nodes

section Passes

open Source (ElementAlike Part)

/-- Parts that differ by a change of names. -/
inductive Source.Part.Agrees (r : String → String) : Part → Part → Prop
  | rejected (failure : Failure) : Agrees r (.rejected failure) (.rejected (failure.rename r))
  | other (kind : String) (index : ℕ) : Agrees r (.other kind index) (.other kind index)
  | function {declaration other : Source.Function} (h : declaration.Agrees r other) :
      Agrees r (.function declaration) (.function other)
  | declarator {value other : Json} (h : Source.DeclaratorAlike r value other) :
      Agrees r (.declarator value) (.declarator other)

variable {r : String → String}

theorem Source.Part.ofElement_agree {element other : Json} (h : ElementAlike r element other)
    (index : ℕ) :
    List.Forall₂ (Part.Agrees r) (Part.ofElement (element, index))
      (Part.ofElement (other, index)) := by
  have hread := Source.Element.read_agree h
  unfold ofElement
  generalize Source.Element.read element = read, Source.Element.read other = read' at hread
  cases hread with
  | error failure => exact .cons (.rejected failure) .nil
  | ok hagree =>
    cases hagree with
    | variableStatement hdeclarations =>
      rw [List.forall₂_map_left_iff, List.forall₂_map_right_iff]
      exact hdeclarations.imp fun _ _ => .declarator
    | function hfunction => exact .cons (.function hfunction) .nil
    | other kind => exact .cons (.other kind index) .nil

theorem Source.Contract.parts_agree {name : String} {body others : List Json}
    (h : List.Forall₂ (ElementAlike r) body others) :
    List.Forall₂ (Part.Agrees r) (parts ⟨name, body⟩) (parts ⟨name, others⟩) := by
  simp only [parts]
  -- elements keep their positions, wherever the body starts
  generalize 0 = start
  induction h generalizing start with
  | nil => exact .nil
  | cons hfirst _ ih =>
    exact List.rel_append (Part.ofElement_agree hfirst start) (ih (start + 1))

theorem Outcome.ofResult_agree {α : Type} {node : α → Target.SubNode} {remark : α → Remark}
    {change : α → α} {result other : Except Failure (Lowered α)}
    (h : Agree r (fun lowered other => other = lowered.rename r change) result other)
    (hnode : ∀ a, node (change a) = (node a).rename r)
    (hremark : ∀ a, remark (change a) = (remark a).rename r) :
    ofResult node remark other = (ofResult node remark result).rename r := by
  cases h with
  | error failure => rfl
  | ok hlowered => simp [hlowered, ofResult, Outcome.rename, Lowered.rename, hnode, hremark]

variable (hr : Function.Injective r) (schema : Schema)

include hr

theorem Source.Part.outcome_rename {part other : Part} (h : part.Agrees r other) :
    other.outcome (schema.rename r) = (part.outcome schema).rename r := by
  cases h with
  | rejected failure => rfl
  | other kind index => rfl
  | function h =>
    exact Outcome.ofResult_agree (lowerFunction_agree hr schema h) (fun _ => rfl) (fun _ => rfl)
  | declarator h =>
    refine Outcome.ofResult_agree (lowerDeclarator_agree hr schema h) (fun _ => rfl)
      fun declaration => ?_
    obtain ⟨_ | ⟨v, later⟩, literal⟩ := declaration <;> rfl

variable (name : String) {body others : List Json} (h : List.Forall₂ (ElementAlike r) body others)

include h

theorem outcomes_rename :
    outcomes (schema.rename r) ⟨name, others⟩ =
      (outcomes schema ⟨name, body⟩).map (.rename r) := by
  refine eq_map_of_forall₂ ?_
  rw [outcomes, outcomes, List.forall₂_map_left_iff, List.forall₂_map_right_iff]
  exact (Source.Contract.parts_agree h).imp fun _ _ => Source.Part.outcome_rename hr schema

theorem gathered_rename :
    gathered (schema.rename r) false ⟨name, others⟩ =
      (gathered schema false ⟨name, body⟩).rename r := by
  rw [gathered, gathered, outcomes_rename hr schema name h]
  simp [finish, Progress.start, Progress.gather, Lowering.rename, Target.Contract.ofSubNodes,
    List.filterMap_map, List.map_filterMap, List.flatMap_map, List.map_flatMap]

end Passes

/-- Elements that are alike are lowered alike, whatever the schema and the options. -/
theorem lower_eq_of_alike {name : String} {body others : List Json}
    (h : List.Forall₂ (Source.ElementAlike id) body others) (schema : Schema) (options : Options) :
    lower schema options ⟨name, others⟩ = lower schema options ⟨name, body⟩ := by
  have houtcomes := outcomes_rename Function.injective_id schema name h
  rw [Schema.rename_id, Outcome.rename_id, List.map_id, id] at houtcomes
  rw [lower, lower, pass_eq_foldlM, pass_eq_foldlM, houtcomes]

end ContractLowering
