import ContractLowering.Proofs.Lowering.TypeSlot

/-! # Supplying missing types

A type is supplied for a slot by the entry that the slot lacks: a state entry behind the others, a
parameter behind those of the function's definition, or the type of that definition, where a
definition that is not there is added. Supplying answers for its slot and for no other one, and
neither makes a variable payable nor gives a function a keyword.
-/

namespace ContractLowering.Schema

/-- A definition that tells nothing but its name. -/
def Definition.blank (name : String) : Definition :=
  ⟨name, [], none, [], []⟩

def Definition.withParameter (name type : String) (definition : Definition) : Definition :=
  { definition with parameters := definition.parameters ++ [⟨name, type⟩] }

def Definition.withType (type : String) (definition : Definition) : Definition :=
  { definition with type := some type }

/-- Change the first definition of a name, or a blank one behind the others if there is none. -/
def amendIn (name : String) (change : Definition → Definition) : List Definition → List Definition
  | [] => [change (.blank name)]
  | definition :: later =>
    if definition.name = name then change definition :: later
    else definition :: amendIn name change later

def amend (schema : Schema) (name : String) (change : Definition → Definition) : Schema :=
  { schema with definitions := amendIn name change schema.definitions }

/-- The schema with a type supplied for a slot that it has none for. -/
def supply (schema : Schema) (type : String) : TypeSlot → Schema
  | .state name => { schema with state := schema.state ++ [⟨name, type, false⟩] }
  | .parameter function name => schema.amend function (.withParameter name type)
  | .result function => schema.amend function (.withType type)

/-- The schema with the chosen types supplied for all these slots. -/
def supplyAll (choice : TypeSlot → String) (schema : Schema) (slots : List TypeSlot) : Schema :=
  slots.foldl (fun schema slot => schema.supply (choice slot) slot) schema

/-- The schemas mark the same variables as payable, and give functions the same keywords. -/
structure MarksAlike (first second : Schema) : Prop where
  payable : ∀ name, (second.stateVariable? name).any (·.payable) =
    (first.stateVariable? name).any (·.payable)
  keywords : ∀ name, functionKeywords second name = functionKeywords first name

section Amend

variable (name : String) (change : Definition → Definition)

theorem find?_amendIn (hname : ∀ definition, (change definition).name = definition.name)
    (definitions : List Definition) (other : String) :
    (amendIn name change definitions).find? (fun definition => definition.name = other) =
      if other = name then
        some (change ((definitions.find? fun definition => definition.name = name).getD
          (.blank name)))
      else definitions.find? fun definition => definition.name = other := by
  induction definitions with
  | nil => by_cases hother : other = name <;> simp [amendIn, hname, Definition.blank, hother, eq_comm]
  | cons definition later ih =>
    by_cases hfirst : definition.name = name
    · by_cases hother : other = name
      · simp [amendIn, hname, hfirst, hother]
      · simp [amendIn, hname, hfirst, Ne.symm hother, hother]
    · by_cases hfound : definition.name = other
      · subst hfound
        simp [amendIn, hfirst]
      · simp [amendIn, hfirst, hfound, ih]

theorem definition?_amend (hname : ∀ definition, (change definition).name = definition.name)
    (schema : Schema) (other : String) :
    (schema.amend name change).definition? other =
      if other = name then some (change ((schema.definition? name).getD (.blank name)))
      else schema.definition? other :=
  find?_amendIn name change hname schema.definitions other

end Amend

/-- An entry behind the others is found where no other one is. -/
theorem map_or_entry {α : Type} (type : α → String) {found : Option α} {entry : α} {p : Prop}
    [Decidable p] (h : p → ∀ given ∈ found.map type, given = type entry) :
    (found.or (if p then some entry else none)).map type =
      if p then some (type entry) else found.map type := by
  by_cases hp : p
  · cases found with
    | none => simp [hp]
    | some given => simp [hp, h hp (type given) rfl]
  · simp [hp]

namespace Definition

variable (definition : Definition) (name type other : String)

theorem parameter?_withParameter :
    (definition.withParameter name type).parameter? other =
      (definition.parameter? other).or (if other = name then some ⟨name, type⟩ else none) := by
  unfold parameter? withParameter
  rw [List.find?_append, List.find?_singleton]
  simp [eq_comm]

variable (found : Option Definition)

theorem getD_blank_parameter? :
    (found.getD (blank name)).parameter? other = found.bind (·.parameter? other) := by
  cases found <;> rfl

theorem getD_blank_type : (found.getD (blank name)).type = found.bind (·.type) := by
  cases found <;> rfl

theorem getD_blank_keywords :
    (found.getD (blank name)).keywords = (found.map (·.keywords)).getD [] := by
  cases found <;> rfl

end Definition

section Supply

variable (schema : Schema) (type : String)

theorem stateVariable?_supply (name other : String) :
    (schema.supply type (.state name)).stateVariable? other =
      (schema.stateVariable? other).or (if other = name then some ⟨name, type, false⟩ else none) := by
  unfold stateVariable? supply
  rw [List.find?_append, List.find?_singleton]
  simp [eq_comm]

theorem definition?_supply_parameter (function name other : String) :
    (schema.supply type (.parameter function name)).definition? other =
      if other = function then
        some (((schema.definition? function).getD (.blank function)).withParameter name type)
      else schema.definition? other :=
  definition?_amend function (.withParameter name type) (fun _ => rfl) schema other

theorem definition?_supply_result (function other : String) :
    (schema.supply type (.result function)).definition? other =
      if other = function then
        some (((schema.definition? function).getD (.blank function)).withType type)
      else schema.definition? other :=
  definition?_amend function (.withType type) (fun _ => rfl) schema other

variable {schema type}

theorem type?_supply_state {name : String}
    (h : ∀ given ∈ schema.type? (.state name), given = type) (other : TypeSlot) :
    (schema.supply type (.state name)).type? other =
      if other = .state name then some type else schema.type? other := by
  cases other with
  | state name' =>
    simp only [type?, stateVariable?_supply, TypeSlot.state.injEq]
    refine map_or_entry StateEntry.type ?_
    rintro rfl
    exact h
  | parameter function name => rfl
  | result function => rfl

theorem type?_supply_parameter {function name : String}
    (h : ∀ given ∈ schema.type? (.parameter function name), given = type) (other : TypeSlot) :
    (schema.supply type (.parameter function name)).type? other =
      if other = .parameter function name then some type else schema.type? other := by
  cases other with
  | state name => rfl
  | parameter function' name' =>
    simp only [type?, definition?_supply_parameter, TypeSlot.parameter.injEq]
    by_cases hfunction : function' = function
    · subst hfunction
      simp only [if_true, true_and, Option.bind_some, Definition.parameter?_withParameter,
        Definition.getD_blank_parameter?]
      refine map_or_entry TypedName.type ?_
      rintro rfl
      exact h
    · simp [hfunction]
  | result function' =>
    simp only [type?, definition?_supply_parameter]
    by_cases hfunction : function' = function
    · subst hfunction
      rw [if_pos rfl, Option.bind_some]
      exact Definition.getD_blank_type function' _
    · simp [hfunction]

theorem type?_supply_result (function : String) (other : TypeSlot) :
    (schema.supply type (.result function)).type? other =
      if other = .result function then some type else schema.type? other := by
  cases other with
  | state name => rfl
  | parameter function' name =>
    simp only [type?, definition?_supply_result]
    by_cases hfunction : function' = function
    · subst hfunction
      rw [if_pos rfl, Option.bind_some]
      exact congrArg (Option.map _) (Definition.getD_blank_parameter? function' name _)
    · simp [hfunction]
  | result function' =>
    simp only [type?, definition?_supply_result, TypeSlot.result.injEq]
    by_cases hfunction : function' = function
    · simp [hfunction, Definition.withType]
    · simp [hfunction]

/-- What is supplied for a slot answers for it, and no other slot is touched. -/
theorem type?_supply {slot : TypeSlot} (h : ∀ given ∈ schema.type? slot, given = type)
    (other : TypeSlot) :
    (schema.supply type slot).type? other =
      if other = slot then some type else schema.type? other := by
  cases slot with
  | state name => exact type?_supply_state h other
  | parameter function name => exact type?_supply_parameter h other
  | result function => exact type?_supply_result function other

/-- Supplied types answer for their slots, however often a slot is listed. -/
theorem type?_supplyAll {choice : TypeSlot → String} {slots : List TypeSlot}
    (h : ∀ slot ∈ slots, ∀ given ∈ schema.type? slot, given = choice slot) (other : TypeSlot) :
    (schema.supplyAll choice slots).type? other =
      if other ∈ slots then some (choice other) else schema.type? other := by
  induction slots generalizing schema with
  | nil => rfl
  | cons slot slots ih =>
    have hslot := type?_supply (h slot List.mem_cons_self)
    -- a slot that is listed again finds the type that was supplied the first time
    have hlater : ∀ later ∈ slots, ∀ given ∈ (schema.supply (choice slot) slot).type? later,
        given = choice later := by
      intro later hmem given hgiven
      rw [hslot] at hgiven
      split at hgiven
      · rename_i heq
        rw [heq]
        exact (Option.some.inj hgiven).symm
      · exact h later (List.mem_cons_of_mem slot hmem) given hgiven
    refine (ih hlater).trans ?_
    rw [hslot]
    by_cases heq : other = slot <;> by_cases hmem : other ∈ slots <;> simp [heq, hmem]

end Supply

section Marks

theorem functionKeywords_amend (name : String) (change : Definition → Definition)
    (hname : ∀ definition, (change definition).name = definition.name)
    (hkeywords : ∀ definition, (change definition).keywords = definition.keywords)
    (schema : Schema) (other : String) :
    functionKeywords (schema.amend name change) other = functionKeywords schema other := by
  rw [functionKeywords, functionKeywords, definition?_amend name change hname]
  by_cases hother : other = name
  · subst hother
    rw [if_pos rfl, Option.map_some, Option.getD_some, hkeywords]
    exact Definition.getD_blank_keywords other _
  · rw [if_neg hother]

theorem supply_marksAlike (schema : Schema) (type : String) (slot : TypeSlot) :
    schema.MarksAlike (schema.supply type slot) where
  payable name := by
    cases slot with
    | state found =>
      rw [stateVariable?_supply]
      cases schema.stateVariable? name with
      | none => by_cases hname : name = found <;> simp [hname]
      | some entry => rfl
    | parameter function found => rfl
    | result function => rfl
  keywords name := by
    cases slot with
    | state found => rfl
    | parameter function found =>
      exact functionKeywords_amend function (.withParameter found type) (fun _ => rfl)
        (fun _ => rfl) schema name
    | result function =>
      exact functionKeywords_amend function (.withType type) (fun _ => rfl) (fun _ => rfl)
        schema name

theorem supplyAll_marksAlike (choice : TypeSlot → String) (schema : Schema)
    (slots : List TypeSlot) : schema.MarksAlike (schema.supplyAll choice slots) := by
  induction slots generalizing schema with
  | nil => exact ⟨fun _ => rfl, fun _ => rfl⟩
  | cons slot slots ih =>
    have hfirst := schema.supply_marksAlike (choice slot) slot
    have hlater := ih (schema.supply (choice slot) slot)
    exact ⟨fun name => (hlater.payable name).trans (hfirst.payable name),
      fun name => (hlater.keywords name).trans (hfirst.keywords name)⟩

end Marks

end ContractLowering.Schema
