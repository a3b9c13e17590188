import ContractLowering.Proofs.Json.Decoder
import ContractLowering.Proofs.Lowering.Correspondence
import ContractLowering.Proofs.Source.Relevance
import ContractLowering.Target.Document

/-! # Members that are never read

Of all members that a document can have, the readers look for few names only. What is left of a
value without the other members, at any depth, is its relevant part. A contract and its relevant
part are read and lowered alike, so documents that differ in other members only cannot be told
apart.
-/

namespace ContractLowering

namespace Json

mutual

/-- The value without the members that no reader looks for, at any depth. -/
def relevant : Json → Json
  | null => null
  | boolean value => boolean value
  | number value => number value
  | text value => text value
  | array items => array (relevantItems items)
  | object members => object (relevantMembers members)

def relevantItems : List Json → List Json
  | [] => []
  | item :: items => item.relevant :: relevantItems items

def relevantMembers : List (String × Json) → Members
  | [] => []
  | (name, value) :: members =>
    if name ∈ readNames then (name, value.relevant) :: relevantMembers members
    else relevantMembers members

end

theorem relevantItems_eq_map (items : List Json) : relevantItems items = items.map relevant := by
  induction items with
  | nil => rfl
  | cons item items ih => rw [relevantItems, ih, List.map_cons]

/-- Members with a name that is looked for are kept. -/
theorem get?_relevantMembers {name : String} (h : name ∈ readNames) (members : Members) :
    Members.get? (relevantMembers members) name = (members.get? name).map relevant := by
  induction members with
  | nil => rfl
  | cons member members ih =>
    obtain ⟨other, value⟩ := member
    rw [relevantMembers]
    by_cases hother : other = name
    · simp [hother, h]
    · split_ifs <;> simp [hother, ih]

theorem keepsRead_relevant : KeepsRead relevant where
  null := rfl
  boolean _ := rfl
  number _ := rfl
  text _ := rfl
  array items := by rw [relevant, relevantItems_eq_map]
  object members := ⟨_, rfl, fun _ hname => get?_relevantMembers hname members⟩

end Json

open Json

namespace Source

/-- What the relevant part of a contract is read as. -/
def Contract.relevant (contract : Contract) : Contract :=
  ⟨contract.name, contract.body.map Json.relevant⟩

theorem Contract.read_relevant (value : Json) :
    Agree id (fun source other => other = source.relevant) (Contract.read value)
      (Contract.read value.relevant) := by
  cases value with
  | object members =>
    have hmembers : KeptMembers Json.relevant members (relevantMembers members) :=
      fun _ hname => get?_relevantMembers hname members
    have hname := hmembers.alikeAt (by decide : "name" ∈ readNames) keepsRead_relevant.textAlike
    refine (Members.text_agree (.contract none) hname).bind fun name _ hname => ?_
    rw [hname, get?_relevantMembers (by decide)]
    rcases Members.get? members "body" with _ | value
    · exact .malformed (.contract (some name)) _
    · cases value with
      | array body => exact .ok (by rw [relevantItems_eq_map]; rfl)
      | _ => exact .malformed (.contract (some name)) _
  | _ => exact .malformed (.contract none) _

end Source

theorem lower_relevant (schema : Schema) (options : Options) (source : Source.Contract) :
    lower schema options source.relevant = lower schema options source :=
  lower_eq_of_alike (forall₂_map keepsRead_relevant.elementAlike source.body) schema options

/-- Documents with one relevant part cannot be told apart: both hold no contract, for the same
reason, or contracts that are always lowered alike and written alike. -/
theorem lower_of_relevant_eq {first second : Json} (h : first.relevant = second.relevant) :
    (∃ failure, Source.Contract.read first = .error failure ∧
        Source.Contract.read second = .error failure) ∨
      ∃ source other, Source.Contract.read first = .ok source ∧
        Source.Contract.read second = .ok other ∧
        ∀ schema options, lower schema options other = lower schema options source ∧
          (lower schema options other).map (·.contract.document) =
            (lower schema options source).map (·.contract.document) := by
  have hsecond := Source.Contract.read_relevant second
  rw [← h] at hsecond
  rcases (Source.Contract.read_relevant first).common hsecond with
    hfailure | ⟨source, other, _, hsource, hother, rfl, hcommon⟩
  · exact .inl hfailure
  · refine .inr ⟨source, other, hsource, hother, fun schema options => ?_⟩
    have hlower : lower schema options other = lower schema options source := by
      rw [← lower_relevant schema options other, ← hcommon, lower_relevant]
    exact ⟨hlower, by rw [hlower]⟩

/-- A position in the source, within an identifier, and a comment on the contract. -/
theorem lower_of_relevant_eq_position :
    let document (notes marks : Members) : Json := .object (notes ++
      [("body", .array [.object [
        ("declarations", .array [.object [("id", .object (marks ++ [("name", .text "x")]))]]),
        ("type", .text "VariableStatement")]]), ("name", .text "C")])
    let first := document [("about", .text "a counter")] []
    let second := document [] [("line", .number (.integer 3))]
    first.relevant = second.relevant ∧ ∃ source other,
      Source.Contract.read first = .ok source ∧ Source.Contract.read second = .ok other ∧
      ∀ schema options, lower schema options other = lower schema options source := by
  intro document first second
  have hrelevant : first.relevant = second.relevant := by
    simp [first, second, document, relevant, relevantItems, relevantMembers, readNames]
  refine ⟨hrelevant, ?_⟩
  rcases lower_of_relevant_eq hrelevant with
    ⟨failure, hfailure, _⟩ | ⟨source, other, hsource, hother, hsame⟩
  · exact nomatch hfailure
  · exact ⟨source, other, hsource, hother, fun schema options => (hsame schema options).1⟩

end ContractLowering
