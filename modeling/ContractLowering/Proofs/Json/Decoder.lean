import ContractLowering.Proofs.Json.Written

/-! # Decoding sorted values

Decoders look members up by name, so they do not see that a document was read with its members
sorted. Each law says what a decoder makes of the sorted form of an encoded part.
-/

namespace ContractLowering

namespace Members

variable (name : String)

@[simp]
theorem get?_nil : get? [] name = none := rfl

@[simp]
theorem get?_cons (member : String × Json) (members : Members) :
    get? (member :: members) name = if member.1 = name then some member.2 else get? members name := by
  by_cases h : member.1 = name <;> simp [get?, h]

@[simp]
theorem get?_append (first later : Members) :
    get? (first ++ later) name = (get? first name).or (get? later name) := by
  induction first with
  | nil => simp [get?_nil]
  | cons member first ih =>
    rw [List.cons_append, get?_cons, get?_cons, ih]
    by_cases h : member.1 = name <;> simp [h]

theorem get?_eq_none {members : Members} (h : name ∉ members.map Prod.fst) :
    get? members name = none := by
  induction members with
  | nil => rfl
  | cons member members ih =>
    rw [List.map_cons, List.mem_cons, not_or] at h
    rw [get?_cons, if_neg (Ne.symm h.1), ih h.2]

/-- Sorting unique members keeps what each name stands for. -/
theorem get?_sortedMembers {members : Members} (h : (members.map Prod.fst).Nodup)
    (found : Members) :
    get? (Json.sortedMembers found members) name =
      ((get? members name).map Json.sorted).or (get? found name) := by
  induction members generalizing found with
  | nil => rfl
  | cons member members ih =>
    obtain ⟨first, value⟩ := member
    rw [List.map_cons, List.nodup_cons] at h
    rw [Json.sortedMembers, ih h.2, get?_insert, get?_cons]
    by_cases hname : first = name
    · -- no later member has this name, so nothing replaces what was found
      subst hname
      simp [get?_eq_none first h.1]
    · simp [hname]

end Members

namespace Json

variable {α : Type}

/-- The first member of this name, if the value is an object that has one. -/
def member? (value : Json) (name : String) : Option Json :=
  match value with
  | object members => Members.get? members name
  | _ => none

def text? : Json → Option String
  | text value => some value
  | _ => none

def boolean? : Json → Option Bool
  | boolean value => some value
  | _ => none

def items? (decode : Json → Option α) : Json → Option (List α)
  | array items => items.mapM decode
  | _ => none

/-- A part that is `null` when there is none. -/
def orNull? (decode : Json → Option α) : Json → Option (Option α)
  | null => some none
  | value => (decode value).map some

def at? (value : Json) (name : String) (decode : Json → Option α) : Option α :=
  (value.member? name).bind decode

/-- A part that is left out when there is none. -/
def ifAt? (value : Json) (name : String) (decode : Json → Option α) : Option (Option α) :=
  match value.member? name with
  | some inner => (decode inner).map some
  | none => some none

/-- The members of a node of this type. -/
def ofType? (type : String) (value : Json) : Option Json :=
  if value.at? "type" text? = some type then some value else none

section Plain

variable {room : Nat}

@[simp]
theorem plain_null : null.Plain room := by
  simp only [Plain]

@[simp]
theorem plain_boolean (value : Bool) : (boolean value).Plain room := by
  simp only [Plain]

@[simp]
theorem plain_text (value : String) : (text value).Plain room := by
  simp only [Plain]

theorem plain_array {encode : α → Json} {parts : List α}
    (h : ∀ part ∈ parts, (encode part).Plain room) :
    (array (parts.map encode)).Plain (room + 1) := by
  intro item hitem
  obtain ⟨part, hpart, rfl⟩ := List.mem_map.mp hitem
  exact h part hpart

end Plain

section Sorted

variable {room : Nat} {value : Json} (name : String) (decode : Json → Option α)

theorem Plain.member?_sorted (h : value.Plain room) :
    value.sorted.member? name = (value.member? name).map sorted := by
  cases value with
  | object members =>
    cases room with
    | zero => exact h.elim
    | succ room =>
      simp [sorted, member?, Members.get?_sortedMembers name h.1, Members.get?_nil]
  | _ => rfl

theorem Plain.at?_sorted (h : value.Plain room) :
    value.sorted.at? name decode = (value.member? name).bind fun inner => decode inner.sorted := by
  rw [at?, h.member?_sorted, Option.bind_map]
  rfl

theorem Plain.ifAt?_sorted {encode : α → Json} {part : Option α} (h : value.Plain room)
    (hmember : value.member? name = part.map encode)
    (hpart : ∀ inner ∈ part, decode (encode inner).sorted = some inner) :
    value.sorted.ifAt? name decode = some part := by
  rw [ifAt?, h.member?_sorted, hmember]
  cases part with
  | none => rfl
  | some inner => simp [hpart inner rfl]

@[simp]
theorem text?_sorted (value : String) : text? (text value).sorted = some value := rfl

@[simp]
theorem boolean?_sorted (value : Bool) : boolean? (boolean value).sorted = some value := rfl

theorem Plain.ofType?_sorted {type : String} (h : value.Plain room)
    (htype : value.member? "type" = some (text type)) :
    value.sorted.ofType? type = some value.sorted := by
  have hfound : value.sorted.at? "type" text? = some type := by
    rw [h.at?_sorted, htype]
    rfl
  rw [ofType?, if_pos hfound]

theorem items?_sorted {encode : α → Json} {parts : List α}
    (h : ∀ part ∈ parts, decode (encode part).sorted = some part) :
    (array (parts.map encode)).sorted.items? decode = some parts := by
  rw [sorted, items?, sortedItems_eq_map, List.map_map]
  induction parts with
  | nil => rfl
  | cons part parts ih =>
    have hpart := h part (by simp)
    have hparts := ih fun part hpart => h part (by simp [hpart])
    rw [List.map_cons, List.mapM_cons, hparts]
    simp [hpart]

end Sorted

end Json

end ContractLowering
