import ContractLowering.Schema.Basic
import Mathlib.Tactic.Common

/-! # The first of several

Names and keywords are looked up from the front of a list. What a look-up finds is the first item
that matches, and it finds nothing only if no item does.
-/

namespace ContractLowering

/-- The first item of a list with a property, if any item has it. -/
inductive IsFirst {α : Type} (p : α → Prop) : List α → Option α → Prop
  | found {before after : List α} {item : α} (holds : p item)
      (earlier : ∀ other ∈ before, ¬ p other) : IsFirst p (before ++ item :: after) (some item)
  | missing {items : List α} (fails : ∀ item ∈ items, ¬ p item) : IsFirst p items none

theorem isFirst_find? {α : Type} (p : α → Prop) [DecidablePred p] (items : List α) :
    IsFirst p items (items.find? fun item => p item) := by
  cases h : items.find? fun item => p item with
  | none => exact .missing fun item hitem => by simpa using List.find?_eq_none.mp h item hitem
  | some item =>
    obtain ⟨hitem, before, after, rfl, hbefore⟩ := List.find?_eq_some_iff_append.mp h
    exact .found (by simpa using hitem) fun other hother => by simpa using hbefore other hother

/-- The first of some words that is a keyword, when each keyword is one of the known ones. -/
theorem isFirst_keyword {α : Type} (keyword : α → String) (known : List α)
    (hknown : ∀ a, a ∈ known) (words : List String) :
    IsFirst (fun word => ∃ a, keyword a = word) words
      ((words.findSome? fun word => known.find? fun a => keyword a = word).map keyword) := by
  cases h : words.findSome? fun word => known.find? fun a => keyword a = word with
  | none =>
    refine .missing fun word hword => ?_
    rintro ⟨a, rfl⟩
    have ha := List.find?_eq_none.mp (List.findSome?_eq_none_iff.mp h _ hword) a (hknown a)
    exact ha (by simp)
  | some a =>
    obtain ⟨before, word, after, rfl, hword, hbefore⟩ := List.findSome?_eq_some_iff.mp h
    obtain rfl : keyword a = word := by simpa using List.find?_some hword
    refine .found ⟨a, rfl⟩ fun other hother => ?_
    rintro ⟨b, rfl⟩
    have hb := List.find?_eq_none.mp (hbefore _ hother) b (hknown b)
    exact hb (by simp)

end ContractLowering
