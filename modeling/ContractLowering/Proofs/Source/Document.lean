import ContractLowering.Proofs.Json.Decoder
import ContractLowering.Proofs.Json.Spelling
import ContractLowering.Session
import Mathlib.Data.String.Basic
import Mathlib.Logic.Relation

/-! # Documents and what they hold

The contract that a document holds depends on the value that is spelt, and of this only on what each
name stands for: of several members of one name the last counts, and the order of members with
distinct names does not. Documents that differ in anything else hold the same contract.
-/

namespace ContractLowering

namespace Members

/-- Members of distinct names are put in their places in any order. -/
theorem insert_comm {name other : String} (h : name ≠ other) (value value' : Json)
    (members : Members) :
    insert name value (insert other value' members) =
      insert other value' (insert name value members) := by
  wlog hlt : name < other generalizing name other value value'
  · exact (this h.symm value' value (lt_of_le_of_ne (not_lt.mp hlt) h.symm)).symm
  induction members with
  | nil => simp [insert, hlt, hlt.not_gt, hlt.ne']
  | cons member members ih =>
    obtain ⟨found, part⟩ := member
    rcases lt_trichotomy other found with hother | rfl | hother
    · have hname := hlt.trans hother
      simp [insert, hlt, hlt.not_gt, hlt.ne', hother, hname]
    · simp [insert, hlt, hlt.not_gt, hlt.ne']
    · rcases lt_trichotomy name found with hname | rfl | hname
      · simp [insert, hname, hlt.not_gt, hlt.ne', hother.not_gt, hother.ne']
      · simp [insert, hother.not_gt, hother.ne']
      · simp [insert, hname.not_gt, hname.ne', hother.not_gt, hother.ne', ih]

end Members

namespace Json

/-- Two neighbouring members of distinct names change places, anywhere in a value. -/
inductive Swaps : Json → Json → Prop
  | members {first second : String × Json} (before after : Members) (h : first.1 ≠ second.1) :
      Swaps (object (before ++ first :: second :: after))
        (object (before ++ second :: first :: after))
  | item {item other : Json} (before after : List Json) (h : Swaps item other) :
      Swaps (array (before ++ item :: after)) (array (before ++ other :: after))
  | member {value other : Json} (name : String) (before after : Members) (h : Swaps value other) :
      Swaps (object (before ++ (name, value) :: after)) (object (before ++ (name, other) :: after))

variable {value other : Json}

theorem sortedMembers_append (found first later : Members) :
    sortedMembers found (first ++ later) = sortedMembers (sortedMembers found first) later := by
  induction first generalizing found with
  | nil => rfl
  | cons member first ih => exact ih _

theorem itemsDepth_append (first later : List Json) :
    itemsDepth (first ++ later) = max (itemsDepth first) (itemsDepth later) := by
  induction first with
  | nil => simp [itemsDepth]
  | cons item first ih => rw [List.cons_append, itemsDepth, ih, itemsDepth, max_assoc]

theorem membersDepth_append (first later : Members) :
    membersDepth (first ++ later) = max (membersDepth first) (membersDepth later) := by
  induction first with
  | nil => simp [membersDepth]
  | cons member first ih => rw [List.cons_append, membersDepth, ih, membersDepth, max_assoc]

theorem Swaps.sorted_eq (h : value.Swaps other) : other.sorted = value.sorted := by
  induction h with
  | @members first second before after h =>
    simp only [sorted, sortedMembers_append, sortedMembers, Members.insert_comm h]
  | item before after _ ih =>
    simp only [sorted, sortedItems_eq_map, List.map_append, List.map_cons, ih]
  | member name before after _ ih => simp only [sorted, sortedMembers_append, sortedMembers, ih]

theorem Swaps.depth_eq (h : value.Swaps other) : other.depth = value.depth := by
  induction h with
  | members before after _ =>
    simp only [depth, membersDepth_append, membersDepth, max_left_comm]
  | item before after _ ih => simp only [depth, itemsDepth_append, itemsDepth, ih]
  | member name before after _ ih => simp only [depth, membersDepth_append, membersDepth, ih]

/-- Whatever the order of members of distinct names, a value is as deep and is read alike. -/
theorem sorted_depth_of_eqvGen (h : Relation.EqvGen Swaps value other) :
    other.sorted = value.sorted ∧ other.depth = value.depth := by
  induction h with
  | rel _ _ h => exact ⟨h.sorted_eq, h.depth_eq⟩
  | refl _ => exact ⟨rfl, rfl⟩
  | symm _ _ _ ih => exact ⟨ih.1.symm, ih.2.symm⟩
  | trans _ _ _ _ _ ih₁ ih₂ => exact ⟨ih₂.1.trans ih₁.1, ih₂.2.trans ih₁.2⟩

/-- Of several members of one name the last is read. -/
theorem member?_sorted_object (members : Members) (name : String) :
    (object members).sorted.member? name = (Members.get? members.reverse name).map sorted := by
  have hfound (found : Members) : Members.get? (sortedMembers found members) name =
      ((Members.get? members.reverse name).map sorted).or (found.get? name) := by
    induction members generalizing found with
    | nil => rfl
    | cons member members ih =>
      obtain ⟨first, value⟩ := member
      rw [sortedMembers, ih, Members.get?_insert, List.reverse_cons, Members.get?_append]
      cases Members.get? members.reverse name with
      | some found => rfl
      | none => by_cases h : first = name <;> simp [h]
  simpa [sorted, member?] using hfound []

/-- All spellings of a value are read alike, and so are those with another order of members. -/
theorem Spells.parse?_eq {source text : String} (h : value.Spells source)
    (hdepth : value.depth ≤ Reading.maxDepth) (hother : Relation.EqvGen Swaps value other)
    (htext : other.Spells text) : Json.parse? text = Json.parse? source := by
  obtain ⟨hsorted, hdepths⟩ := sorted_depth_of_eqvGen hother
  rw [h.parse? hdepth, htext.parse? (hdepths ▸ hdepth), hsorted]

end Json

/-- A document that spells a value holds the contract that is read from the value, where of several
members of one name the last counts. Documents that spell one value, up to the order of members of
distinct names, hold the same contract and are lowered alike. -/
theorem lowerSource_of_spells {value : Json} {source : String} (h : value.Spells source)
    (hdepth : value.depth ≤ 127) :
    Source.Contract.parse source = (Source.Contract.read value.sorted).mapError .root ∧
      (∀ (members : Members) (name : String), (Json.object members).sorted.member? name =
        (Members.get? members.reverse name).map Json.sorted) ∧
      ∀ (other : Json) (text : String), Relation.EqvGen Json.Swaps value other →
        other.Spells text →
        Source.Contract.parse text = Source.Contract.parse source ∧
          ∀ schema options,
            lowerSource schema options text = lowerSource schema options source := by
  refine ⟨?_, Json.member?_sorted_object, fun other text hother htext => ?_⟩
  · rw [Source.Contract.parse, h.parse? hdepth]
  · have hparse : Source.Contract.parse text = Source.Contract.parse source := by
      rw [Source.Contract.parse, Source.Contract.parse, h.parse?_eq hdepth hother htext]
    refine ⟨hparse, fun schema options => ?_⟩
    rw [lowerSource, lowerSource, hparse]

/-- A clef as two surrogates and as it is, after another name that does not count. -/
theorem lowerSource_of_spells_clef :
    let value : Json := .object [("name", .text "A"), ("body", .array []), ("name", .text "𝄞")]
    let other : Json := .object [("body", .array []), ("name", .text "A"), ("name", .text "𝄞")]
    let source : String := "\x7b\"name\":\"A\",\n\t\"body\":[ ],\"name\":\"\\uD834\\udd1e\"\x7d"
    let text : String := "\x7b\"\\u0062ody\":[],\"name\":\"A\",\"name\":\"𝄞\"\x7d\r"
    value.Spells source ∧ Relation.EqvGen Json.Swaps value other ∧ other.Spells text ∧
      Source.Contract.parse source = .ok ⟨"𝄞", []⟩ ∧
      Source.Contract.parse text = Source.Contract.parse source := by
  intro value other source text
  have hself (name : String) (h : name.toList.all Token.isRaw = true) :
      Token.Spells (.text name) ('"' :: name.toList ++ ['"']) := .text (Token.spellsText_self h)
  have hname := hself "name" (by decide)
  have hbody : Token.Spells (.text "body")
      ('"' :: (['\\', 'u', '0', '0', '6', '2'] ++ ['o', 'd', 'y']) ++ ['"']) := by
    refine .text (s := "body") (.cons (.unit ?_) (Token.spellsText_self (by decide)))
    exact .digits (a := 0) (b := 0) (c := 6) (d := 2) (by decide) (by decide) (by decide)
      (by decide)
  have hclef : Token.Spells (.text "𝄞")
      ('"' :: (['\\', 'u', 'D', '8', '3', '4'] ++ ['\\', 'u', 'd', 'd', '1', 'e'] ++ []) ++
        ['"']) := by
    refine .text (s := "𝄞") (.cons ?_ .nil)
    refine @Token.SpellsChar.surrogates _ 0x34 0x11E _ _ ?_ ?_ (by decide) (by decide) (by decide)
    · exact .digits (a := 13) (b := 8) (c := 3) (d := 4) (by decide) (by decide) (by decide)
        (by decide)
    · exact .digits (a := 13) (b := 13) (c := 1) (d := 14) (by decide) (by decide) (by decide)
        (by decide)
  have hsource := Token.SpellsAll.next .openObject <| .next hname <| .next .colon <|
    .next (hself "A" (by decide)) <| .next .comma <| .blank (by decide : '\n' ∈ _) <|
    .blank (by decide : '\t' ∈ _) <| .next (hself "body" (by decide)) <| .next .colon <|
    .next .openArray <| .blank (by decide : ' ' ∈ _) <| .next .closeArray <| .next .comma <|
    .next hname <| .next .colon <| .next hclef <| .next .closeObject <|
    .nil (List.forall_mem_nil _)
  have htext := Token.SpellsAll.next .openObject <| .next hbody <| .next .colon <|
    .next .openArray <| .next .closeArray <| .next .comma <| .next hname <| .next .colon <|
    .next (hself "A" (by decide)) <| .next .comma <| .next hname <| .next .colon <|
    .next (hself "𝄞" (by decide)) <| .next .closeObject <| .blank (by decide : '\r' ∈ _) <|
    .nil (List.forall_mem_nil _)
  have hsourceSpelt : value.Spells source := by
    change Token.SpellsAll value.tokens source.toList
    convert hsource using 1 <;> decide +kernel
  have htextSpelt : other.Spells text := by
    change Token.SpellsAll other.tokens text.toList
    convert htext using 1 <;> decide +kernel
  have hswap : Relation.EqvGen Json.Swaps value other :=
    .rel _ _ (.members [] [("name", .text "𝄞")] (by decide))
  obtain ⟨hparse, _, hothers⟩ := lowerSource_of_spells hsourceSpelt (by decide)
  exact ⟨hsourceSpelt, hswap, htextSpelt, hparse.trans rfl, (hothers other text hswap htextSpelt).1⟩

end ContractLowering
