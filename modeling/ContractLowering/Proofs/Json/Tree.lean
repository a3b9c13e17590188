import ContractLowering.Json.Document
import Mathlib.Tactic.Common

/-! # Values and their tokens

A value is spelled by a sequence of tokens. Reading that sequence gives the value back with its
members sorted; of several members of one name the last is kept. Containers may be nested as
deep as the reader has room for.
-/

namespace ContractLowering

namespace Json

mutual

/-- The tokens that spell a value. -/
def tokens : Json → List Token
  | null => [.null]
  | boolean value => [.boolean value]
  | number value => [.number value]
  | text value => [.text value]
  | array [] => [.openArray, .closeArray]
  | array (item :: items) => .openArray :: (item.tokens ++ laterItems items ++ [.closeArray])
  | object [] => [.openObject, .closeObject]
  | object ((name, value) :: members) =>
    .openObject :: .text name :: .colon :: (value.tokens ++ laterMembers members ++ [.closeObject])

/-- The tokens of the items after the first. -/
def laterItems : List Json → List Token
  | [] => []
  | item :: items => .comma :: (item.tokens ++ laterItems items)

/-- The tokens of the members after the first. -/
def laterMembers : List (String × Json) → List Token
  | [] => []
  | (name, value) :: members =>
    .comma :: .text name :: .colon :: (value.tokens ++ laterMembers members)

end

mutual

/-- The value as it is read: its members sorted by name and unique, the last of a name kept. -/
def sorted : Json → Json
  | null => null
  | boolean value => boolean value
  | number value => number value
  | text value => text value
  | array items => array (sortedItems items)
  | object members => object (sortedMembers [] members)

def sortedItems : List Json → List Json
  | [] => []
  | item :: items => item.sorted :: sortedItems items

/-- The members put one by one among those that are there. -/
def sortedMembers (found : Members) : List (String × Json) → Members
  | [] => found
  | (name, value) :: members => sortedMembers (found.insert name value.sorted) members

end

mutual

/-- How deep containers are nested. -/
def depth : Json → Nat
  | null => 0
  | boolean _ => 0
  | number _ => 0
  | text _ => 0
  | array items => itemsDepth items + 1
  | object members => membersDepth members + 1

def itemsDepth : List Json → Nat
  | [] => 0
  | item :: items => max item.depth (itemsDepth items)

def membersDepth : List (String × Json) → Nat
  | [] => 0
  | (_, value) :: members => max value.depth (membersDepth members)

end

theorem sortedItems_eq_map (items : List Json) : sortedItems items = items.map sorted := by
  induction items with
  | nil => rfl
  | cons item items ih => rw [sortedItems, ih, List.map_cons]

/-- A value does not start with the end of an array. -/
theorem tokens_eq_cons (value : Json) :
    ∃ token rest, value.tokens = token :: rest ∧ token ≠ .closeArray := by
  cases value with
  | array items => cases items <;> exact ⟨_, _, rfl, nofun⟩
  | object members => rcases members with _ | ⟨⟨name, value⟩, members⟩ <;> exact ⟨_, _, rfl, nofun⟩
  | _ => exact ⟨_, _, rfl, nofun⟩

end Json

namespace Reading

open Json (sortedItems sortedMembers laterItems laterMembers itemsDepth membersDepth)

theorem foldlM_firstItem (value : Json) (stack : List Container) :
    value.tokens.foldlM step ⟨stack, .firstItem⟩ = value.tokens.foldlM step ⟨stack, .value⟩ := by
  obtain ⟨token, rest, htokens, htoken⟩ := value.tokens_eq_cons
  rw [htokens, List.foldlM_cons, List.foldlM_cons]
  simp only [step, if_neg htoken]

theorem enter_eq_some {container : Container} {expected : Expected} {stack : List Container}
    (h : stack.length + 1 ≤ maxDepth) :
    enter container expected stack = some ⟨container :: stack, expected⟩ :=
  if_pos h

mutual

/-- The tokens of a value lead from where a value is awaited to where it is complete. -/
theorem foldlM_tokens (value : Json) (stack : List Container)
    (h : value.depth + stack.length ≤ maxDepth) :
    value.tokens.foldlM step ⟨stack, .value⟩ = complete value.sorted stack := by
  match value with
  | .null => simp [Json.tokens, Json.sorted, step, Reading.value]
  | .boolean _ => simp [Json.tokens, Json.sorted, step, Reading.value]
  | .number _ => simp [Json.tokens, Json.sorted, step, Reading.value]
  | .text _ => simp [Json.tokens, Json.sorted, step, Reading.value]
  | .array [] =>
    have hroom : stack.length + 1 ≤ maxDepth := by simp only [Json.depth, itemsDepth] at h; omega
    simp [Json.tokens, Json.sorted, sortedItems, step, Reading.value, enter_eq_some hroom, close]
  | .array (item :: items) =>
    simp only [Json.depth, itemsDepth] at h
    have hroom : stack.length + 1 ≤ maxDepth := by omega
    have hitem := foldlM_tokens item (.array [] :: stack) (by simp only [List.length_cons]; omega)
    have hitems := foldlM_laterItems items [item.sorted] stack (by omega)
    simp only [Json.tokens, List.foldlM_cons, List.foldlM_append, step, Reading.value,
      enter_eq_some hroom, Option.bind_eq_bind, Option.bind_some, foldlM_firstItem, hitem,
      complete, hitems, close, List.foldlM_nil]
    simp [Json.sorted, sortedItems]
  | .object [] =>
    have hroom : stack.length + 1 ≤ maxDepth := by simp only [Json.depth, membersDepth] at h; omega
    simp [Json.tokens, Json.sorted, sortedMembers, step, Reading.value, enter_eq_some hroom, close]
  | .object ((name, value) :: members) =>
    simp only [Json.depth, membersDepth] at h
    have hroom : stack.length + 1 ≤ maxDepth := by omega
    have hvalue := foldlM_tokens value (.member [] name :: stack)
      (by simp only [List.length_cons]; omega)
    have hmembers := foldlM_laterMembers members (Members.insert name value.sorted []) stack
      (by omega)
    simp only [Json.tokens, List.foldlM_cons, List.foldlM_append, step, Reading.value,
      enter_eq_some hroom, Option.bind_eq_bind, Option.bind_some, memberName, hvalue,
      complete, hmembers, close, List.foldlM_nil, reduceCtorEq, if_false, if_true]
    simp [Json.sorted, sortedMembers]

theorem foldlM_laterItems (items found : List Json) (stack : List Container)
    (h : itemsDepth items + (stack.length + 1) ≤ maxDepth) :
    (laterItems items).foldlM step ⟨.array found :: stack, .comma⟩ =
      some ⟨.array ((sortedItems items).reverse ++ found) :: stack, .comma⟩ := by
  match items with
  | [] => rfl
  | item :: items =>
    simp only [itemsDepth] at h
    have hitem := foldlM_tokens item (.array found :: stack) (by simp only [List.length_cons]; omega)
    have hitems := foldlM_laterItems items (item.sorted :: found) stack (by omega)
    simp only [laterItems, List.foldlM_cons, List.foldlM_append, step, Option.bind_eq_bind,
      Option.bind_some, hitem, complete, hitems]
    simp [sortedItems]

theorem foldlM_laterMembers (members : List (String × Json)) (found : Members)
    (stack : List Container) (h : membersDepth members + (stack.length + 1) ≤ maxDepth) :
    (laterMembers members).foldlM step ⟨.object found :: stack, .comma⟩ =
      some ⟨.object (sortedMembers found members) :: stack, .comma⟩ := by
  match members with
  | [] => rfl
  | (name, value) :: members =>
    simp only [membersDepth] at h
    have hvalue := foldlM_tokens value (.member found name :: stack)
      (by simp only [List.length_cons]; omega)
    have hmembers := foldlM_laterMembers members (Members.insert name value.sorted found) stack
      (by omega)
    simp only [laterMembers, List.foldlM_cons, List.foldlM_append, step, Option.bind_eq_bind,
      Option.bind_some, memberName, if_true, hvalue, complete, hmembers, sortedMembers]

end

end Reading

/-- Reading the tokens of a value gives the value back, sorted. -/
theorem Json.ofTokens?_tokens (value : Json) (h : value.depth ≤ Reading.maxDepth) :
    ofTokens? value.tokens = some value.sorted := by
  rw [ofTokens?, Reading.start, Reading.foldlM_tokens value [] h]
  rfl

end ContractLowering
