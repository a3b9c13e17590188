import ContractLowering.Proofs.Lowering.Declarator
import ContractLowering.Proofs.Lowering.Outcome

/-! # Nodes of a lowered contract

Every node of a lowered contract is a variable that a declarator made, a function with its lowered
body, or an event of the schema. What holds of these holds of every node.
-/

namespace ContractLowering

open Target (SubNode)

variable {schema : Schema}

theorem Source.Part.outcome_node?_eq_some {part : Part} {node : SubNode}
    (h : (part.outcome schema).node? = some node) :
    (∃ (name : String) (meaning : Option Value), (∀ denoted ∈ meaning, denoted.InRange) ∧
        node = .state (variableOf schema name meaning).node) ∨
      ∃ (function : Source.Function) (body : List Target.Statement),
        node = .function (functionOf schema function body) := by
  cases part with
  | rejected failure => exact nomatch h
  | other kind index => exact nomatch h
  | function declaration =>
    obtain ⟨lowered, hlower, rfl⟩ := Outcome.ofResult_node?_eq_some.mp h
    obtain ⟨body, _, rfl⟩ := lowerFunction_eq_ok.mp hlower
    exact .inr ⟨declaration, body, rfl⟩
  | declarator value =>
    obtain ⟨lowered, hlower, rfl⟩ := Outcome.ofResult_node?_eq_some.mp h
    obtain ⟨name, initializer, meaning, _, hdenotes, rfl⟩ := lowerDeclarator_eq_ok.mp hlower
    refine .inl ⟨name, meaning, ?_, rfl⟩
    cases hdenotes with
    | none => exact nofun
    | some hdenotes =>
      rintro _ ⟨⟩
      exact hdenotes.inRange

/-- A lowered parameter keeps its name and has the type that its slot resolves to. -/
theorem exists_of_mem_parameters {function : Source.Function} {body : List Target.Statement}
    {v : Target.Variable} (h : v ∈ (functionOf schema function body).parameters) :
    ∃ (name : String) (type : Option String),
      v = .parameter name (.plain (resolve (.parameter function.name name) type).node) := by
  obtain ⟨lowered, hlowered, rfl⟩ := List.mem_map.mp h
  obtain ⟨name, _, rfl⟩ := List.mem_map.mp hlowered
  exact ⟨name, _, rfl⟩

/-- A property of variables, functions and events is one of all nodes of a lowered contract. -/
theorem forall_subNodes {P : SubNode → Prop}
    (hstate : ∀ (name : String) (meaning : Option Value), (∀ denoted ∈ meaning, denoted.InRange) →
      P (.state (variableOf schema name meaning).node))
    (hfunction : ∀ (function : Source.Function) (body : List Target.Statement),
      P (.function (functionOf schema function body)))
    (hevent : ∀ node ∈ lowerEvents schema, P node)
    {options : Options} {source : Source.Contract} {lowering : Lowering}
    (h : lower schema options source = .ok lowering) :
    ∀ node ∈ lowering.contract.subNodes, P node := by
  intro node hnode
  rw [lower_eq_ok h, gathered_subNodes] at hnode
  rcases List.mem_append.mp hnode with hbody | hevents
  · obtain ⟨outcome, houtcome, hfound⟩ := List.mem_filterMap.mp hbody
    obtain ⟨part, _, rfl⟩ := List.mem_map.mp houtcome
    rcases part.outcome_node?_eq_some hfound with
      ⟨name, meaning, hmeaning, rfl⟩ | ⟨function, body, rfl⟩
    · exact hstate name meaning hmeaning
    · exact hfunction function body
  · split at hevents
    · exact hevent node hevents
    · exact nomatch hevents

end ContractLowering
