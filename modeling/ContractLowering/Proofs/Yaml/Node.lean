import ContractLowering.Yaml.Node

/-! # Comparison of nodes

Whether two nodes are the same is found out part by part.
-/

namespace ContractLowering.Yaml.Node

mutual

def same : Node → Node → Bool
  | scalar value, scalar other => value = other
  | sequence items, sequence others => sameItems items others
  | mapping entries, mapping others => sameEntries entries others
  | anchored number node, anchored number' other => number = number' && same node other
  | reference number, reference number' => number = number'
  | _, _ => false

def sameItems : List Node → List Node → Bool
  | [], [] => true
  | item :: items, other :: others => same item other && sameItems items others
  | _, _ => false

def sameEntries : List (Node × Node) → List (Node × Node) → Bool
  | [], [] => true
  | (key, value) :: entries, (key', value') :: others =>
    same key key' && same value value' && sameEntries entries others
  | _, _ => false

end

mutual

theorem same_iff (node other : Node) : same node other = true ↔ node = other := by
  cases node with
  | scalar value => cases other <;> simp [same]
  | sequence items => cases other <;> simp [same, sameItems_iff items]
  | mapping entries => cases other <;> simp [same, sameEntries_iff entries]
  | anchored number node => cases other <;> simp [same, same_iff node]
  | reference number => cases other <;> simp [same]

theorem sameItems_iff (items others : List Node) :
    sameItems items others = true ↔ items = others := by
  cases items with
  | nil => cases others <;> simp [sameItems]
  | cons item items => cases others <;> simp [sameItems, same_iff item, sameItems_iff items]

theorem sameEntries_iff (entries others : List (Node × Node)) :
    sameEntries entries others = true ↔ entries = others := by
  match entries, others with
  | [], [] => simp [sameEntries]
  | [], _ :: _ => simp [sameEntries]
  | _ :: _, [] => simp [sameEntries]
  | (key, value) :: entries, (key', value') :: others =>
    simp [sameEntries, same_iff key, same_iff value, sameEntries_iff entries, and_assoc]

end

instance : DecidableEq Node := fun node other => decidable_of_iff _ (same_iff node other)

end ContractLowering.Yaml.Node
