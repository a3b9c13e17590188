import ContractLowering.Proofs.Source.Member

/-! # How readers fail

A composed reading fails as one of its steps does. A reader of members fails for one reason only:
the node is malformed, which it reports at the location that it was given. An unsupported
construct is reported by what comes after the reading.
-/

namespace ContractLowering

/-- Every failure of a result is a possible one. -/
def FailsWith {α : Type} (possible : Failure → Prop) (result : Except Failure α) : Prop :=
  ∀ failure, result = .error failure → possible failure

/-- A report on a malformed node at this location. -/
def Failure.IsMalformedAt (location : Location) (failure : Failure) : Prop :=
  ∃ defect, failure = .malformed location defect

namespace FailsWith

variable {α β : Type} {possible : Failure → Prop} {result : Except Failure α}

theorem ok (a : α) : FailsWith possible (.ok a) :=
  fun _ h => nomatch h

theorem bind {next : α → Except Failure β} (h : FailsWith possible result)
    (hnext : ∀ a, FailsWith possible (next a)) : FailsWith possible (result >>= next) := by
  cases result with
  | error failure => exact fun found hfound => h found (by cases hfound; rfl)
  | ok a => exact hnext a

theorem map {f : α → β} (h : FailsWith possible result) : FailsWith possible (f <$> result) := by
  cases result with
  | error failure => exact fun found hfound => h found (by cases hfound; rfl)
  | ok a => exact ok (f a)

theorem mapM {f : α → Except Failure β} {items : List α}
    (h : ∀ item ∈ items, FailsWith possible (f item)) : FailsWith possible (items.mapM f) := by
  induction items with
  | nil => exact ok []
  | cons item items ih =>
    rw [List.mapM_cons]
    have hlater := ih fun item hitem => h item (List.mem_cons_of_mem _ hitem)
    exact (h item List.mem_cons_self).bind fun _ => hlater.bind fun _ => ok _

end FailsWith

section Reports

variable {α β : Type} {result : Except Failure α}

def ReportsMalformed (result : Except Failure α) : Prop :=
  ∃ location defect, result = .error (.malformed location defect)

def ReportsUnsupported (result : Except Failure α) : Prop :=
  ∃ location construct, result = .error (.unsupported location construct)

/-- A result is one of three. -/
theorem reportsMalformed_iff (result : Except Failure α) :
    ReportsMalformed result ↔ ¬ ReportsUnsupported result ∧ ¬ ∃ a, result = .ok a := by
  rcases result with ⟨location, defect | construct⟩ | a <;>
    simp [ReportsMalformed, ReportsUnsupported, Failure.malformed, Failure.unsupported]

@[simp]
theorem malformed_ne_unsupported {location place : Location} {defect : Defect}
    {construct : Construct} :
    (malformed location defect : Except Failure α) ≠ unsupported place construct :=
  fun h => nomatch h

@[simp]
theorem unsupported_inj {location place : Location} {construct construct' : Construct} :
    (unsupported location construct : Except Failure α) = unsupported place construct' ↔
      location = place ∧ construct = construct' := by
  simp [unsupported, Failure.unsupported]

@[simp]
theorem not_reportsUnsupported_ok (a : α) : ¬ ReportsUnsupported (.ok a) :=
  fun ⟨_, _, h⟩ => nomatch h

@[simp]
theorem not_reportsUnsupported_malformed (location : Location) (defect : Defect) :
    ¬ ReportsUnsupported (malformed location defect : Except Failure α) :=
  fun ⟨_, _, h⟩ => nomatch h

@[simp]
theorem reportsUnsupported_unsupported (location : Location) (construct : Construct) :
    ReportsUnsupported (unsupported location construct : Except Failure α) :=
  ⟨location, construct, rfl⟩

@[simp]
theorem reportsUnsupported_map {f : α → β} :
    ReportsUnsupported (f <$> result) ↔ ReportsUnsupported result := by
  cases result <;> simp [ReportsUnsupported, Functor.map, Except.map]

theorem reportsUnsupported_bind {next : α → Except Failure β} :
    ReportsUnsupported (result >>= next) ↔
      ReportsUnsupported result ∨ ∃ a, result = .ok a ∧ ReportsUnsupported (next a) := by
  cases result <;> simp [ReportsUnsupported, bind, Except.bind]

/-- What only fails as malformed reports nothing unsupported. -/
theorem FailsWith.not_reportsUnsupported
    (h : FailsWith (fun failure => ∃ location, failure.IsMalformedAt location) result) :
    ¬ ReportsUnsupported result := by
  rintro ⟨location, construct, hresult⟩
  obtain ⟨_, _, hfailure⟩ := h _ hresult
  exact nomatch hfailure

theorem bind_eq_unsupported {next : α → Except Failure β} {location : Location}
    {construct : Construct} :
    (result >>= next) = unsupported location construct ↔
      result = unsupported location construct ∨
        ∃ a, result = .ok a ∧ next a = unsupported location construct := by
  cases result <;> simp [bind, Except.bind, unsupported]

/-- Where only malformed nodes are reported, an unsupported construct comes from what is next. -/
theorem FailsWith.bind_eq_unsupported {next : α → Except Failure β} {location place : Location}
    {construct : Construct} (h : FailsWith (·.IsMalformedAt location) result) :
    (result >>= next) = unsupported place construct ↔
      ∃ a, result = .ok a ∧ next a = unsupported place construct := by
  rw [ContractLowering.bind_eq_unsupported, or_iff_right]
  intro hresult
  obtain ⟨defect, hfailure⟩ := h _ hresult
  exact nomatch hfailure

end Reports

theorem malformed_failsWith {α : Type} (location : Location) (defect : Defect) :
    FailsWith (·.IsMalformedAt location) (malformed location defect : Except Failure α) :=
  fun _ h => ⟨defect, (Except.error.inj h).symm⟩

theorem Json.node_failsWith (location : Location) (value : Json) :
    FailsWith (·.IsMalformedAt location) (value.node location) := by
  cases value with
  | object members => exact .ok members
  | _ => exact malformed_failsWith _ _

namespace Members

variable (location : Location) (members : Members) (name : String)

theorem required_failsWith :
    FailsWith (·.IsMalformedAt location) (members.required location name) := by
  unfold required
  split
  · exact .ok _
  · exact malformed_failsWith _ _

theorem text_failsWith : FailsWith (·.IsMalformedAt location) (members.text location name) := by
  refine (required_failsWith location members name).bind fun value => ?_
  cases value with
  | text value => exact .ok value
  | _ => exact malformed_failsWith _ _

theorem kind_failsWith : FailsWith (·.IsMalformedAt location) (members.kind location) :=
  text_failsWith location members "type"

theorem node_failsWith : FailsWith (·.IsMalformedAt location) (members.node location name) := by
  refine (required_failsWith location members name).bind fun value => ?_
  cases value with
  | object inner => exact .ok inner
  | _ => exact malformed_failsWith _ _

theorem sequence_failsWith :
    FailsWith (·.IsMalformedAt location) (members.sequence location name) := by
  refine (required_failsWith location members name).bind fun value => ?_
  cases value with
  | array items => exact .ok items
  | _ => exact malformed_failsWith _ _

end Members

end ContractLowering
