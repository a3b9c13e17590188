import ContractLowering.Proofs.Source.Function
import ContractLowering.Proofs.Source.Variable
import ContractLowering.Source.Statement

/-! # Where readers report

A reader hands its location down to the readers of all parts, so whatever fails below is reported
there. A declarator and a function are reported by the name in their identifier, from the moment
that it has been read, and without a name if there is none to read.
-/

namespace ContractLowering

/-- Every failure is reported at this location. -/
abbrev FailsAt {α : Type} (location : Location) (result : Except Failure α) : Prop :=
  FailsWith (·.location = location) result

/-- A report on a node of this kind, by its name exactly if it has one. -/
structure Failure.Blames (kind : String) (named : String → Prop) (failure : Failure) : Prop where
  kind_eq : failure.location.kind = kind
  name_iff : ∀ name, failure.location.name = some name ↔ named name

section Results

variable {α β : Type} {possible other : Failure → Prop} {location : Location}
  {result : Except Failure α}

/-- What comes after a reading only has to answer for what was read. -/
theorem FailsWith.bind_of_ok {next : α → Except Failure β} (h : FailsWith possible result)
    (hnext : ∀ a, result = .ok a → FailsWith possible (next a)) :
    FailsWith possible (result >>= next) := by
  cases result with
  | error failure => exact fun found hfound => h found (by cases hfound; rfl)
  | ok a => exact hnext a rfl

theorem FailsWith.imp (h : FailsWith possible result)
    (himp : ∀ failure, possible failure → other failure) : FailsWith other result :=
  fun failure hfailure => himp failure (h failure hfailure)

theorem FailsWith.failsAt (h : FailsWith (·.IsMalformedAt location) result) :
    FailsAt location result := by
  refine h.imp ?_
  rintro failure ⟨defect, rfl⟩
  rfl

theorem malformed_failsAt (location : Location) (defect : Defect) :
    FailsAt location (malformed location defect : Except Failure α) :=
  (malformed_failsWith location defect).failsAt

theorem unsupported_failsAt (location : Location) (construct : Construct) :
    FailsAt location (unsupported location construct : Except Failure α) := by
  intro failure hfailure
  cases hfailure
  rfl

end Results

namespace Failure.Blames

variable {kind : String} {named : String → Prop} {failure : Failure}

theorem of_name {name : String} (hlocation : failure.location = ⟨kind, some name⟩)
    (hname : named name) (hunique : ∀ other, named other → name = other) :
    failure.Blames kind named where
  kind_eq := by rw [hlocation]
  name_iff other := by
    rw [hlocation, Option.some.injEq]
    constructor
    · rintro rfl
      exact hname
    · exact hunique other

theorem of_nameless (hlocation : failure.location = ⟨kind, none⟩) (hnone : ∀ name, ¬ named name) :
    failure.Blames kind named where
  kind_eq := by rw [hlocation]
  name_iff other := by
    rw [hlocation]
    constructor
    · intro h
      exact nomatch h
    · intro hother
      exact absurd hother (hnone other)

end Failure.Blames

/-- A node whose member of this name is a node with this name. -/
def Json.Identifies (value : Json) (part name : String) : Prop :=
  ∃ members identifier : Members, value = .object members ∧
    members.get? part = some (.object identifier) ∧ identifier.get? "name" = some (.text name)

theorem Json.Identifies.unique {value : Json} {part name other : String}
    (h : value.Identifies part name) (hother : value.Identifies part other) : name = other := by
  obtain ⟨members, identifier, rfl, hpart, hname⟩ := h
  obtain ⟨_, identifier', ⟨⟩, hpart', hname'⟩ := hother
  obtain rfl : identifier = identifier' := by simpa [hpart] using hpart'
  simpa [hname] using hname'

/-- What starts with the name of an identifier reports by that name, if it can be read. -/
theorem Members.identified_blames {α : Type} {kind part : String} {members : Members}
    {next : String → Except Failure α} (hnext : ∀ name, FailsAt ⟨kind, some name⟩ (next name)) :
    FailsWith (·.Blames kind ((Json.object members).Identifies part)) (do
      let identifier ← members.node ⟨kind, none⟩ part
      let name ← identifier.text ⟨kind, none⟩ "name"
      next name) := by
  by_cases hnamed : ∃ name, (Json.object members).Identifies part name
  · obtain ⟨name, hname⟩ := hnamed
    obtain ⟨_, identifier, ⟨⟩, hpart, htext⟩ := id hname
    simp only [node_eq_ok.mpr hpart, text_eq_ok.mpr htext, bind, Except.bind]
    exact (hnext name).imp fun failure hlocation =>
      .of_name hlocation hname fun other => hname.unique
  · have hblames : ∀ failure : Failure, failure.location = ⟨kind, none⟩ →
        failure.Blames kind ((Json.object members).Identifies part) :=
      fun failure hlocation => .of_nameless hlocation (not_exists.mp hnamed)
    refine ((node_failsWith _ _ _).failsAt.imp hblames).bind_of_ok fun identifier hpart => ?_
    refine ((text_failsWith _ _ _).failsAt.imp hblames).bind_of_ok fun name htext => ?_
    exact absurd ⟨name, members, identifier, rfl, node_eq_ok.mp hpart, text_eq_ok.mp htext⟩ hnamed

namespace Source

variable (location : Location)

theorem Function.readParameter_failsAt (value : Json) :
    FailsAt location (readParameter location value) := by
  refine (value.node_failsWith location).failsAt.bind fun members => ?_
  refine (members.required_failsWith location "name").failsAt.bind fun part => ?_
  cases part with
  | text name => exact .ok name
  | object identifier => exact (Members.text_failsWith location identifier "name").failsAt
  | _ => exact malformed_failsAt _ _

theorem Function.readBody_failsAt (part : Option Json) :
    FailsAt location (readBody location part) := by
  rcases part with _ | value
  · exact .ok []
  cases value with
  | null => exact .ok []
  | array statements => exact .ok statements
  | object block => exact (Members.sequence_failsWith location block "body").failsAt
  | _ => exact malformed_failsAt _ _

theorem readOperand_failsAt (operand : Members) : FailsAt location (readOperand location operand) := by
  unfold readOperand
  split
  · exact .ok _
  · split
    · split
      · exact malformed_failsAt _ _
      · exact unsupported_failsAt _ _
    · exact malformed_failsAt _ _

theorem Statement.readReturned_failsAt (returned : Members) :
    FailsAt location (readReturned location returned) := by
  refine (returned.text_failsWith location "type").failsAt.bind fun kind => ?_
  split
  · refine (returned.text_failsWith location "operator").failsAt.bind fun operator => ?_
    refine (returned.node_failsWith location "left").failsAt.bind fun left => ?_
    refine (readOperand_failsAt location left).bind fun l => ?_
    refine (returned.node_failsWith location "right").failsAt.bind fun right => ?_
    exact (readOperand_failsAt location right).bind fun r => .ok _
  · exact .ok _

theorem Statement.read_failsAt (value : Json) : FailsAt location (read location value) := by
  refine (value.node_failsWith location).failsAt.bind fun members => ?_
  refine (members.text_failsWith location "type").failsAt.bind fun kind => ?_
  split
  · refine (members.node_failsWith location "argument").failsAt.bind fun returned => ?_
    exact readReturned_failsAt location returned
  · exact .ok _

/-- A function is blamed by its name, wherever in its shape the fault is. -/
theorem Function.read_blames (members : Members) :
    FailsWith (·.Blames "FunctionDeclaration" ((Json.object members).Identifies "name"))
      (read members) := by
  refine Members.identified_blames fun name => ?_
  refine (members.sequence_failsWith _ "params").failsAt.bind fun items => ?_
  refine (FailsWith.mapM fun item _ => readParameter_failsAt _ item).bind fun parameters => ?_
  exact (readBody_failsAt _ _).bind fun body => .ok _

/-- A declarator is blamed by its name, wherever in it the fault is. -/
theorem Variable.read_blames (value : Json) :
    FailsWith (·.Blames "VariableDeclarator" (value.Identifies "id")) (read value) := by
  have hother (hvalue : ∀ members, value ≠ .object members) :
      FailsWith (·.Blames "VariableDeclarator" (value.Identifies "id")) (read value) := by
    refine FailsWith.bind_of_ok ?_ fun members hmembers => absurd (Json.node_eq_ok.mp hmembers)
      (hvalue members)
    refine (value.node_failsWith (.declarator none)).failsAt.imp fun failure hlocation => ?_
    refine .of_nameless hlocation ?_
    rintro name ⟨members, _, hobject, _⟩
    exact hvalue members hobject
  cases value with
  | object members =>
    refine Members.identified_blames fun name => ?_
    exact (Initializer.readOptional_failsWith).failsAt.bind fun initializer => .ok _
  | _ => exact hother fun _ => nofun

end Source

end ContractLowering
