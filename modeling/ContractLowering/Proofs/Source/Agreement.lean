import ContractLowering.Proofs.Source.Member
import Mathlib.Data.List.Forall2
import Mathlib.Data.Option.Basic

/-! # Readings that agree

Two documents may name things differently, or spell in two ways what is read as one. Their
readings agree when they succeed with related results, or fail for the same cause at locations
whose names correspond. The readers of members agree wherever the members are alike in what these
readers look at.
-/

namespace ContractLowering

def Location.rename (r : String → String) (location : Location) : Location :=
  { location with name := location.name.map r }

def Failure.rename (r : String → String) (failure : Failure) : Failure :=
  { failure with location := failure.location.rename r }

@[simp]
theorem Location.rename_id : rename id = id := by
  funext location
  simp [rename]

@[simp]
theorem Failure.rename_id : rename id = id := by
  funext failure
  simp [rename]

/-- Results that are related, or failures that differ in the names of their locations only. -/
inductive Agree {α β : Type} (r : String → String) (R : α → β → Prop) :
    Except Failure α → Except Failure β → Prop
  | error (failure : Failure) : Agree r R (.error failure) (.error (failure.rename r))
  | ok {a : α} {b : β} (h : R a b) : Agree r R (.ok a) (.ok b)

namespace Agree

variable {α β γ δ : Type} {r : String → String} {R : α → β → Prop} {S : γ → δ → Prop}
  {x : Except Failure α} {y : Except Failure β}

theorem bind {f : α → Except Failure γ} {g : β → Except Failure δ} (h : Agree r R x y)
    (hnext : ∀ a b, R a b → Agree r S (f a) (g b)) : Agree r S (x >>= f) (y >>= g) := by
  cases h with
  | error failure => exact .error failure
  | ok hvalues => exact hnext _ _ hvalues

theorem map {f : α → γ} {g : β → δ} (h : Agree r R x y) (hnext : ∀ a b, R a b → S (f a) (g b)) :
    Agree r S (f <$> x) (g <$> y) := by
  cases h with
  | error failure => exact .error failure
  | ok hvalues => exact .ok (hnext _ _ hvalues)

/-- Related values are those that were read. -/
theorem remember (h : Agree r R x y) : Agree r (fun a b => R a b ∧ x = .ok a) x y := by
  cases h with
  | error failure => exact .error failure
  | ok hvalues => exact .ok ⟨hvalues, rfl⟩

theorem imp {S : α → β → Prop} (h : Agree r R x y) (himp : ∀ a b, R a b → S a b) :
    Agree r S x y := by
  cases h with
  | error failure => exact .error failure
  | ok hvalues => exact .ok (himp _ _ hvalues)

/-- Lists are read item by item, and the first failure ends the reading. -/
theorem mapM {f : γ → Except Failure α} {g : δ → Except Failure β} {items : List γ}
    {others : List δ}
    (h : List.Forall₂ (fun item other => Agree r R (f item) (g other)) items others) :
    Agree r (List.Forall₂ R) (items.mapM f) (others.mapM g) := by
  induction h with
  | nil => exact .ok .nil
  | cons hitem _ ih =>
    rw [List.mapM_cons, List.mapM_cons]
    exact hitem.bind fun _ _ hfirst => ih.bind fun _ _ hlater => .ok (.cons hfirst hlater)

/-- Readings that both agree with a third one fail alike, or their results are related to one
result. -/
theorem common {S : γ → β → Prop} {z : Except Failure γ} (hx : Agree id R x y)
    (hz : Agree id S z y) :
    (∃ failure, x = .error failure ∧ z = .error failure) ∨
      ∃ a c b, x = .ok a ∧ z = .ok c ∧ R a b ∧ S c b := by
  generalize hy : y = result at hz
  cases hx with
  | error failure =>
    cases hz with
    | error failure' =>
      have hsame : failure = failure' := by simpa using hy
      exact .inl ⟨failure, rfl, by rw [hsame]⟩
    | ok _ => exact nomatch hy
  | ok hvalues =>
    cases hz with
    | error failure' => exact nomatch hy
    | ok hothers =>
      obtain rfl := Except.ok.inj hy
      exact .inr ⟨_, _, _, rfl, rfl, hvalues, hothers⟩

theorem malformed (location : Location) (defect : Defect) :
    Agree r R (malformed location defect) (ContractLowering.malformed (location.rename r) defect) :=
  .error (.malformed location defect)

theorem unsupported (location : Location) (construct : Construct) :
    Agree r R (unsupported location construct)
      (ContractLowering.unsupported (location.rename r) construct) :=
  .error (.unsupported location construct)

end Agree

/-- Lists whose items correspond by a function are an image of each other. -/
theorem eq_map_of_forall₂ {α β : Type} {f : α → β} {items : List α} {others : List β}
    (h : List.Forall₂ (fun item other => other = f item) items others) : others = items.map f := by
  induction h with
  | nil => rfl
  | cons hitem _ ih => rw [hitem, ih, List.map_cons]

theorem forall₂_map {α β : Type} {R : α → β → Prop} {f : α → β} (h : ∀ item, R item (f item))
    (items : List α) : List.Forall₂ R items (items.map f) := by
  rw [List.forall₂_map_right_iff, List.forall₂_same]
  exact fun item _ => h item

/-- Values that are both made from related parts, or both not made like this and of one shape. -/
inductive Json.Alike {γ : Type} (make : γ → Json) (R : γ → γ → Prop) : Json → Json → Prop
  | made {a b : γ} (h : R a b) : Alike make R (make a) (make b)
  | other {first second : Json} (shape : second.shape = first.shape) (hfirst : ∀ a, first ≠ make a)
      (hsecond : ∀ a, second ≠ make a) : Alike make R first second

namespace Json

theorem Alike.of_shape {γ : Type} {make : γ → Json} {R : γ → γ → Prop} {shape : Shape}
    {first second : Json} (hmake : ∀ a, (make a).shape = shape) (h : second.shape = first.shape)
    (hne : first.shape ≠ shape) : Alike make R first second := by
  refine .other h (fun a hfirst => hne ?_) fun a hsecond => hne ?_
  · rw [hfirst, hmake]
  · rw [← h, hsecond, hmake]

/-- A text corresponds to the renamed one. -/
abbrev TextAlike (r : String → String) : Json → Json → Prop :=
  Alike text fun name other => other = r name

abbrev NodeAlike (R : Members → Members → Prop) : Json → Json → Prop :=
  Alike object R

abbrev ItemsAlike (R : Json → Json → Prop) : Json → Json → Prop :=
  Alike array (List.Forall₂ R)

end Json

/-- Members that both lack this name, or whose values of this name are related. -/
def Members.AlikeAt (R : Json → Json → Prop) (name : String) (first second : Members) : Prop :=
  Option.Rel R (first.get? name) (second.get? name)

theorem Json.node_agree {r : String → String} {R : Members → Members → Prop} {first second : Json}
    (location : Location) (h : first.NodeAlike R second) :
    Agree r R (first.node location) (second.node (location.rename r)) := by
  have hother {value : Json} {location : Location} (hvalue : ∀ members, value ≠ .object members) :
      value.node location = malformed location (.notNode value.shape) := by
    cases value with
    | object members => exact absurd rfl (hvalue members)
    | _ => rfl
  cases h with
  | made hmembers => exact .ok hmembers
  | other hshape hfirst hsecond =>
    rw [hother hfirst, hother hsecond, hshape]
    exact .malformed location _

namespace Members

variable {r : String → String} {first second : Members} {name : String} (location : Location)

theorem AlikeAt.of_map {R : Json → Json → Prop} {f : Json → Json} (hR : ∀ value, R value (f value))
    (h : second.get? name = (first.get? name).map f) : AlikeAt R name first second := by
  rw [AlikeAt, h]
  cases first.get? name with
  | none => exact .none
  | some value => exact .some (hR value)

theorem AlikeAt.of_eq {R : Json → Json → Prop} (hR : ∀ value, R value value)
    (h : second.get? name = first.get? name) : AlikeAt R name first second :=
  .of_map (f := id) hR (by rw [h, Option.map_id, id])

theorem required_agree {R : Json → Json → Prop} (h : AlikeAt R name first second) :
    Agree r R (first.required location name) (second.required (location.rename r) name) := by
  unfold AlikeAt at h
  unfold required
  generalize first.get? name = part, second.get? name = other at h ⊢
  cases h with
  | none => exact .malformed location _
  | some hvalues => exact .ok hvalues

theorem text_agree {names : String → String}
    (h : AlikeAt (Json.TextAlike names) name first second) :
    Agree r (fun value other => other = names value) (first.text location name)
      (second.text (location.rename r) name) := by
  refine (required_agree location h).bind fun value other hvalues => ?_
  cases hvalues with
  | made htexts => exact .ok htexts
  | other hshape hfirst hsecond =>
    split
    · exact absurd rfl (hfirst _)
    · rw [hshape]
      exact .malformed location _

theorem node_agree {R : Members → Members → Prop}
    (h : AlikeAt (Json.NodeAlike R) name first second) :
    Agree r R (first.node location name) (second.node (location.rename r) name) := by
  refine (required_agree location h).bind fun value other hvalues => ?_
  cases hvalues with
  | made hmembers => exact .ok hmembers
  | other hshape hfirst hsecond =>
    split
    · exact absurd rfl (hfirst _)
    · rw [hshape]
      exact .malformed location _

theorem sequence_agree {R : Json → Json → Prop}
    (h : AlikeAt (Json.ItemsAlike R) name first second) :
    Agree r (List.Forall₂ R) (first.sequence location name)
      (second.sequence (location.rename r) name) := by
  refine (required_agree location h).bind fun value other hvalues => ?_
  cases hvalues with
  | made hitems => exact .ok hitems
  | other hshape hfirst hsecond =>
    split
    · exact absurd rfl (hfirst _)
    · rw [hshape]
      exact .malformed location _

/-- The kind of a node is no name. -/
theorem kind_agree (h : AlikeAt (Json.TextAlike id) "type" first second) :
    Agree r (fun kind other => other = kind ∧ first.kind? = some kind) (first.kind location)
      (second.kind (location.rename r)) := by
  refine (text_agree location h).remember.imp fun kind other hkind => ⟨hkind.1, ?_⟩
  rw [kind?, kind_eq_ok.mp hkind.2]

theorem kind?_eq (h : AlikeAt (Json.TextAlike id) "type" first second) :
    second.kind? = first.kind? := by
  unfold AlikeAt at h
  unfold kind?
  generalize first.get? "type" = part, second.get? "type" = other at h ⊢
  cases h with
  | none => rfl
  | some hvalues =>
    cases hvalues with
    | made htexts => rw [htexts]; rfl
    | other hshape hfirst hsecond =>
      split
      · rename_i kind hkind
        exact absurd (Option.some.inj hkind) (hsecond kind)
      · split
        · rename_i kind hkind
          exact absurd (Option.some.inj hkind) (hfirst kind)
        · rfl

end Members

end ContractLowering
