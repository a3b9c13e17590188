import ContractLowering.Lowering.Shared
import ContractLowering.Proofs.Lowering.Node
import ContractLowering.Session

/-! # Shared lists of warnings

A call that shares its list gives the node that the lowering on its own gives, and leaves the
warnings of that lowering at the end of the list. What stood there before has no influence, and a
call that fails leaves it alone. A session is such a sequence of calls.
-/

namespace ContractLowering

section Runs

variable {α β : Type}

/-- A traversal adds what its items add, one after the other. -/
theorem run_mapM {step : α → StateM (List Warning) β} {result : α → β} {added : α → List Warning}
    (hstep : ∀ item warnings, (step item).run warnings = (result item, warnings ++ added item))
    (items : List α) (warnings : List Warning) :
    (items.mapM step).run warnings = (items.map result, warnings ++ items.flatMap added) := by
  induction items generalizing warnings with
  | nil => rw [List.flatMap_nil, List.append_nil]; rfl
  | cons item items ih =>
    rw [List.mapM_cons, run_bind_of_eq (hstep item warnings), run_bind_of_eq (ih _),
      List.append_assoc]
    rfl

end Runs

/-- What a lowering leaves when it shares a list: its warnings stand at the end if it succeeds, and
the list is as it was if it fails. -/
def shared {α : Type} (warnings : List Warning) :
    Except Failure (Lowered α) → Except Failure α × List Warning
  | .ok lowered => (.ok lowered.node, warnings ++ lowered.warnings)
  | .error failure => (.error failure, warnings)

theorem run_supplyType (slot : TypeSlot) (type : Option String) (warnings : List Warning) :
    (supplyType slot type).run warnings =
      ((resolve slot type).node, warnings ++ (resolve slot type).warnings) := by
  cases type with
  | none => rfl
  | some type =>
    rw [resolve, List.append_nil]
    rfl

theorem run_warnParameter (definition : Option Schema.Definition) (function name : String)
    (warnings : List Warning) :
    (warnParameter definition function name).run warnings =
      ((lowerParameter definition function name).node,
        warnings ++ (lowerParameter definition function name).warnings) := by
  rw [warnParameter, run_bind_of_eq (run_supplyType _ _ warnings)]
  rfl

theorem run_warnSignature (schema : Schema) (function : Source.Function) (warnings : List Warning) :
    (warnSignature (schema.definition? function.name) function).run warnings =
      (((loweredParameters schema function).map (·.node), (resultType schema function.name).node),
        warnings ++ functionWarnings schema function) := by
  rw [warnSignature, run_bind_of_eq (run_mapM (run_warnParameter _ _) _ warnings),
    run_bind_of_eq (run_supplyType _ _ _), functionWarnings, loweredParameters, List.map_map,
    List.flatMap_map, List.append_assoc]
  rfl

theorem run_warnVariable (schema : Schema) (declared : Source.Variable) (warnings : List Warning) :
    (warnVariable schema declared).run.run warnings =
      shared warnings (lowerVariable schema declared) := by
  obtain ⟨name, _ | initializer⟩ := declared
  · rw [lowerVariable_bare, bareVariable, variableType]
    simp only [warnVariable]
    cases schema.stateVariable? name with
    | none => rfl
    | some entry =>
      simp only [Option.map_some, resolve, shared, List.append_nil]
      rfl
  · rw [lowerVariable_initialized]
    simp only [warnVariable]
    cases infer (.declarator (some name)) initializer with
    | error failure => rfl
    | ok inferred =>
      simp only [Except.map, shared, List.append_nil]
      rfl

theorem run_warnFunction (schema : Schema) (function : Source.Function) (warnings : List Warning) :
    (warnFunction schema function).run.run warnings =
      shared warnings (lowerFunction schema function) := by
  -- The signature has a list of its own, which starts empty and is added once the body is lowered.
  rw [lowerFunction_eq_map]
  simp only [warnFunction, run_warnSignature, List.nil_append]
  cases lowerBody (.functionDeclaration (some function.name)) function.body with
  | error failure => rfl
  | ok body => rfl

namespace Session

variable {session : Session} {source : String} {value : Json}

/-- A session hands its own list to the lowering of a variable. -/
theorem step_declaration {declared : Source.Variable} (hparsed : readNode source = .ok value)
    (hread : Source.Variable.read value = .ok declared) :
    session.step (.declaration source) =
      match (warnVariable session.schema declared).run.run session.warnings with
      | (.ok node, warnings) => (.ok (.declaration node), ⟨session.schema, warnings⟩)
      | (.error failure, warnings) => (.error (.failed failure), ⟨session.schema, warnings⟩) := by
  have hlower : lowerDeclarator session.schema value = lowerVariable session.schema declared := by
    rw [lowerDeclarator, hread]
    rfl
  rw [run_warnVariable]
  simp only [step, answer, hparsed, bind, Except.bind, hlower]
  cases lowerVariable session.schema declared <;> rfl

theorem step_function {declared : Source.Function} (hparsed : readNode source = .ok value)
    (hread : Source.Element.read value = .ok (.function declared)) :
    session.step (.function source) =
      match (warnFunction session.schema declared).run.run session.warnings with
      | (.ok node, warnings) => (.ok (.function node), ⟨session.schema, warnings⟩)
      | (.error failure, warnings) => (.error (.failed failure), ⟨session.schema, warnings⟩) := by
  rw [run_warnFunction]
  simp only [step, answer, hparsed, lowerElement, hread, bind, Except.bind]
  cases lowerFunction session.schema declared <;> rfl

end Session

namespace Call

/-- The lowering of a call that shares no list. -/
def lowered : Call → Except Failure (Lowered Target.SubNode)
  | .variable schema declared =>
    (lowerVariable schema declared).map fun lowered => ⟨.state lowered.node, lowered.warnings⟩
  | .function schema declared =>
    (lowerFunction schema declared).map fun lowered => ⟨.function lowered.node, lowered.warnings⟩

/-- What a call gives when the list is empty. -/
def result (call : Call) : Except Failure Target.SubNode :=
  (call.perform.run []).1

/-- What a call adds when the list is empty. -/
def reports (call : Call) : List Warning :=
  (call.perform.run []).2

theorem perform_eq_shared (call : Call) (warnings : List Warning) :
    call.perform.run warnings = shared warnings call.lowered := by
  rcases call with ⟨schema, declared⟩ | ⟨schema, declared⟩
  · rw [perform, ExceptT.run_map, StateT.run_map, run_warnVariable, lowered]
    cases lowerVariable schema declared <;> rfl
  · rw [perform, ExceptT.run_map, StateT.run_map, run_warnFunction, lowered]
    cases lowerFunction schema declared <;> rfl

theorem perform_eq (call : Call) (warnings : List Warning) :
    call.perform.run warnings = (call.result, warnings ++ call.reports) := by
  rw [result, reports, perform_eq_shared, perform_eq_shared]
  cases call.lowered with
  | ok lowered => rfl
  | error failure => simp [shared]

/-- A call that fails has added nothing. -/
theorem reports_of_error {call : Call} {failure : Failure} (h : call.result = .error failure) :
    call.reports = [] := by
  rw [result, perform_eq_shared] at h
  rw [reports, perform_eq_shared]
  cases hlowered : call.lowered with
  | error found => rfl
  | ok lowered =>
    rw [hlowered] at h
    exact nomatch h

theorem perform_of_error {call : Call} {failure : Failure} (earlier : List Warning)
    (h : call.result = .error failure) : (call.perform.run earlier).2 = earlier := by
  rw [perform_eq, reports_of_error h, List.append_nil]

theorem performAll_eq (calls : List Call) (warnings : List Warning) :
    (performAll calls).run warnings =
      (calls.map result, warnings ++ (calls.map reports).flatten) := by
  rw [performAll, run_mapM perform_eq, List.flatMap_def]

end Call

/-- Calls that share a list of warnings have no influence on one another. Each gives what it gives
when the list is empty and adds what it adds then; one that fails adds nothing. So the list grows by
the reports of the calls, and in another order the calls have the same results and reports. -/
theorem performAll_history_free (calls : List Call) (warnings : List Warning) :
    (Call.performAll calls).run warnings =
        (calls.map Call.result, warnings ++ (calls.map Call.reports).flatten) ∧
      (∀ (call : Call) (earlier : List Warning),
        call.perform.run earlier = (call.result, earlier ++ call.reports) ∧
          ∀ failure, call.result = .error failure → (call.perform.run earlier).2 = earlier) ∧
      ∀ others : List Call, others.Perm calls →
        ((Call.performAll others).run warnings).2 =
            warnings ++ (others.map Call.reports).flatten ∧
          (others.map Call.reports).Perm (calls.map Call.reports) ∧
          (others.zip ((Call.performAll others).run warnings).1).Perm
            (calls.zip ((Call.performAll calls).run warnings).1) := by
  have hall (others : List Call) := Call.performAll_eq others warnings
  have hpairs (others : List Call) : others.zip ((Call.performAll others).run warnings).1 =
      others.map fun call => (call, call.result) := by
    rw [hall, List.map_prod_left_eq_zip]
  constructor
  · exact hall calls
  constructor
  · intro call earlier
    exact ⟨call.perform_eq earlier, fun failure => Call.perform_of_error earlier⟩
  · intro others horder
    rw [hpairs, hpairs, hall]
    exact ⟨rfl, horder.map _, horder.map _⟩

/-- A function that fails after it has missed two types adds nothing, wherever it is called. -/
theorem performAll_history_free_failing :
    let statement : Json := .object [("type", .text "IfStatement")]
    let failing : Call := .function .empty ⟨"f", ["p"], [statement]⟩
    let missing : Call := .variable .empty ⟨"v", none⟩
    let earlier : List Warning := [.skipped "Import" 0]
    let later : List Warning := [.skipped "Import" 0, .unresolved (.state "v")]
    ((Call.performAll [failing, missing]).run earlier).2 = later ∧
      ((Call.performAll [missing, failing]).run earlier).2 = later ∧
      (∃ failure, failing.result = .error failure ∧ (failing.perform.run later).2 = later) ∧
      ([missing, failing].zip ((Call.performAll [missing, failing]).run earlier).1).Perm
        ([failing, missing].zip ((Call.performAll [failing, missing]).run earlier).1) := by
  intro statement failing missing earlier later
  obtain ⟨hlist, hcall, horder⟩ := performAll_history_free [failing, missing] earlier
  obtain ⟨hswapped, -, hresults⟩ := horder [missing, failing] (.swap _ _ [])
  have hreports : failing.reports = [] ∧ missing.reports = [.unresolved (.state "v")] := by decide
  have hfailure : failing.result =
      .error (.unsupported (.functionDeclaration (some "f")) (.node "IfStatement")) := by decide
  refine ⟨?_, ?_, ⟨_, hfailure, (hcall failing later).2 _ hfailure⟩, hresults⟩
  · simp [hlist, hreports, earlier, later]
  · simp [hswapped, hreports, earlier, later]

end ContractLowering
