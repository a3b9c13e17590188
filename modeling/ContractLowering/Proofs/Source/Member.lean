import ContractLowering.Source.Contract
import Mathlib.Tactic.Common

/-! # When readers succeed

Each reader of members succeeds exactly when the member is there and has the shape that is
asked for. The kinds of body elements follow from these laws.
-/

namespace ContractLowering

section Results

variable {ε α β : Type} {result : Except ε α}

theorem bind_eq_ok {next : α → Except ε β} {b : β} :
    (result >>= next) = .ok b ↔ ∃ a, result = .ok a ∧ next a = .ok b := by
  cases result <;> simp [bind, Except.bind]

theorem map_eq_ok {f : α → β} {b : β} :
    (f <$> result) = .ok b ↔ ∃ a, result = .ok a ∧ f a = b := by
  cases result <;> simp [Functor.map, Except.map]

theorem pure_eq_ok {a b : α} : (pure a : Except ε α) = .ok b ↔ a = b := by
  simp [pure, Except.pure]

theorem mapM_eq_ok {f : α → Except ε β} {items : List α} {results : List β} :
    items.mapM f = .ok results ↔ List.Forall₂ (fun item b => f item = .ok b) items results := by
  induction items generalizing results with
  | nil =>
    rw [List.mapM_nil, pure_eq_ok]
    constructor
    · rintro rfl
      exact .nil
    · intro h
      cases h
      rfl
  | cons item items ih =>
    simp only [List.mapM_cons, bind_eq_ok, pure_eq_ok, ih]
    constructor
    · rintro ⟨b, hitem, later, hitems, rfl⟩
      exact .cons hitem hitems
    · rintro (_ | ⟨hitem, hitems⟩)
      exact ⟨_, hitem, _, hitems, rfl⟩

theorem exists_mapM_eq_ok {f : α → Except ε β} {items : List α} :
    (∃ results, items.mapM f = .ok results) ↔ ∀ item ∈ items, ∃ b, f item = .ok b := by
  simp only [mapM_eq_ok]
  induction items with
  | nil => exact ⟨fun _ => List.forall_mem_nil _, fun _ => ⟨[], .nil⟩⟩
  | cons item items ih =>
    rw [List.forall_mem_cons, ← ih]
    constructor
    · rintro ⟨_, _ | ⟨hitem, hitems⟩⟩
      exact ⟨⟨_, hitem⟩, ⟨_, hitems⟩⟩
    · rintro ⟨⟨b, hitem⟩, ⟨results, hitems⟩⟩
      exact ⟨b :: results, .cons hitem hitems⟩

/-- A traversal fails as the first item does that fails. -/
theorem mapM_eq_error {f : α → Except ε β} {items : List α} {e : ε} :
    items.mapM f = .error e ↔ ∃ before item after, items = before ++ item :: after ∧
      (∀ earlier ∈ before, ∃ b, f earlier = .ok b) ∧ f item = .error e := by
  induction items with
  | nil => simp [pure, Except.pure]
  | cons item items ih =>
    rw [List.mapM_cons]
    cases hitem : f item with
    | error found =>
      constructor
      · intro h
        cases h
        exact ⟨[], item, items, rfl, List.forall_mem_nil _, hitem⟩
      · rintro ⟨before, failing, after, hitems, hbefore, hfailing⟩
        cases before with
        | nil =>
          obtain ⟨rfl, rfl⟩ := List.cons.inj hitems
          rw [hitem, Except.error.injEq] at hfailing
          rw [hfailing]
          rfl
        | cons earlier before =>
          obtain ⟨rfl, -⟩ := List.cons.inj hitems
          obtain ⟨b, hb⟩ := hbefore _ List.mem_cons_self
          rw [hitem] at hb
          exact nomatch hb
    | ok b =>
      have hlater : (do let bs ← items.mapM f; return b :: bs) = .error e ↔
          items.mapM f = .error e := by
        cases items.mapM f <;> simp [bind, Except.bind, pure, Except.pure]
      change (do let bs ← items.mapM f; return b :: bs) = .error e ↔ _
      rw [hlater, ih]
      constructor
      · rintro ⟨before, failing, after, rfl, hbefore, hfailing⟩
        exact ⟨item :: before, failing, after, rfl, List.forall_mem_cons.mpr ⟨⟨b, hitem⟩, hbefore⟩,
          hfailing⟩
      · rintro ⟨before, failing, after, hitems, hbefore, hfailing⟩
        cases before with
        | nil =>
          obtain ⟨rfl, rfl⟩ := List.cons.inj hitems
          rw [hitem] at hfailing
          exact nomatch hfailing
        | cons earlier before =>
          obtain ⟨rfl, rfl⟩ := List.cons.inj hitems
          exact ⟨before, failing, after, rfl, (List.forall_mem_cons.mp hbefore).2, hfailing⟩

theorem run_bind_of_eq {σ : Type} {action : StateM σ α} {next : α → StateM σ β} {before after : σ}
    {a : α} (h : action.run before = (a, after)) :
    (action >>= next).run before = (next a).run after := by
  rw [StateT.run_bind, h]
  rfl

end Results

theorem Json.node_eq_ok {location : Location} {value : Json} {members : Members} :
    value.node location = .ok members ↔ value = .object members := by
  cases value <;> simp [Json.node, malformed]

namespace Members

variable {location : Location} {members : Members} {name : String}

theorem required_eq_ok {value : Json} :
    members.required location name = .ok value ↔ members.get? name = some value := by
  unfold required
  split <;> simp_all [malformed]

theorem text_eq_ok {value : String} :
    members.text location name = .ok value ↔ members.get? name = some (.text value) := by
  unfold text
  simp only [bind_eq_ok, required_eq_ok]
  constructor
  · rintro ⟨found, hfound, h⟩
    cases found <;> simp_all [malformed]
  · intro h
    exact ⟨_, h, rfl⟩

theorem node_eq_ok {inner : Members} :
    members.node location name = .ok inner ↔ members.get? name = some (.object inner) := by
  unfold node
  simp only [bind_eq_ok, required_eq_ok]
  constructor
  · rintro ⟨found, hfound, h⟩
    cases found <;> simp_all [malformed]
  · intro h
    exact ⟨_, h, rfl⟩

theorem sequence_eq_ok {items : List Json} :
    members.sequence location name = .ok items ↔ members.get? name = some (.array items) := by
  unfold sequence
  simp only [bind_eq_ok, required_eq_ok]
  constructor
  · rintro ⟨found, hfound, h⟩
    cases found <;> simp_all [malformed]
  · intro h
    exact ⟨_, h, rfl⟩

theorem kind_eq_ok {kind : String} :
    members.kind location = .ok kind ↔ members.get? "type" = some (.text kind) :=
  text_eq_ok

theorem kind?_eq_some {kind : String} :
    members.kind? = some kind ↔ members.get? "type" = some (.text kind) := by
  unfold kind?
  split <;> simp_all

end Members

namespace Source.Element

theorem read_eq_variableStatement {value : Json} {declarations : List Json} :
    read value = .ok (.variableStatement declarations) ↔
      ∃ members : Members, value = .object members ∧
        members.get? "type" = some (.text "VariableStatement") ∧
        members.get? "declarations" = some (.array declarations) := by
  simp only [read, bind_eq_ok, Json.node_eq_ok, Members.kind_eq_ok]
  constructor
  · rintro ⟨members, hvalue, kind, hkind, h⟩
    split at h
    · rename_i hvariable
      simp only [bind_eq_ok, Members.sequence_eq_ok, pure_eq_ok, variableStatement.injEq] at h
      obtain ⟨_, hdeclarations, rfl⟩ := h
      exact ⟨members, hvalue, hvariable ▸ hkind, hdeclarations⟩
    · split at h <;> simp [map_eq_ok, pure_eq_ok] at h
  · rintro ⟨members, hvalue, hkind, hdeclarations⟩
    refine ⟨members, hvalue, _, hkind, ?_⟩
    simp [map_eq_ok, Members.sequence_eq_ok, hdeclarations]

theorem read_eq_other {value : Json} {kind : String} :
    read value = .ok (.other kind) ↔
      ∃ members : Members, value = .object members ∧ members.get? "type" = some (.text kind) ∧
        kind ≠ "VariableStatement" ∧ kind ≠ "FunctionDeclaration" := by
  simp only [read, bind_eq_ok, Json.node_eq_ok, Members.kind_eq_ok]
  constructor
  · rintro ⟨members, hvalue, found, hkind, h⟩
    split at h
    · simp [map_eq_ok] at h
    · split at h
      · simp [map_eq_ok] at h
      · rename_i hvariable hfunction
        simp only [pure_eq_ok, other.injEq] at h
        subst h
        exact ⟨members, hvalue, hkind, hvariable, hfunction⟩
  · rintro ⟨members, hvalue, hkind, hvariable, hfunction⟩
    refine ⟨members, hvalue, kind, hkind, ?_⟩
    simp [hvariable, hfunction, pure_eq_ok]

end Source.Element

end ContractLowering
