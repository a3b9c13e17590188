import ContractLowering.Lowering.Inference
import ContractLowering.Proofs.Decimal.Value
import ContractLowering.Proofs.Source.Rejection

/-! # Values of initializers

What can be inferred from an initializer is one of four kinds of values, each with its type and
its literal, from which it is read back. A call is only inferred from when it makes a number
between 0 and 255 or an address, and a number out of range and an unknown callee are the only
calls that are unsupported.
-/

namespace ContractLowering

open Target (ElementaryType Literal)

/-- A value that a variable can start with. -/
inductive Value where
  | text (value : String)
  | boolean (value : Bool)
  | uint8 (value : ℕ)
  | address (value : String)

namespace Value

def type : Value → ElementaryType
  | text _ => .string
  | boolean _ => .bool
  | uint8 _ => .uint8
  | address _ => .address

def literal : Value → Literal
  | text value => .ofText value
  | boolean value => .boolean value
  | uint8 value => .ofNumeral (Nat.repr value)
  | address value => .ofNumeral value

/-- The type and the literal of a value. -/
def inferred (value : Value) : Inferred :=
  ⟨value.type, value.literal⟩

/-- Whether the type of a value holds it. -/
def InRange : Value → Prop
  | uint8 value => value ≤ 255
  | _ => True

/-- The value that a literal of a type stands for. -/
def ofLiteral? : ElementaryType → Literal → Option Value
  | .string, .text value parts isUnicode =>
    if parts = [value] ∧ isUnicode = [false] then some (.text value) else none
  | .bool, .boolean value => some (.boolean value)
  | .uint8, .number numeral none => (readDigits? numeral).map .uint8
  | .address, .number numeral none => some (.address numeral)
  | _, _ => none

theorem ofLiteral?_literal (value : Value) : ofLiteral? value.type value.literal = some value := by
  cases value with
  | text value => simp [ofLiteral?, type, literal, Literal.ofText]
  | boolean value => rfl
  | uint8 value => simp [ofLiteral?, type, literal, Literal.ofNumeral, readDigits?_repr]
  | address value => rfl

end Value

/-- Numbers are compared with the range by their exact values. -/
theorem uint8Numeral?_eq_some {number : Number} {numeral : String} :
    uint8Numeral? number = some numeral ↔
      ∃ n : ℕ, number.value = n ∧ n ≤ 255 ∧ numeral = Nat.repr n := by
  simp only [uint8Numeral?, ← Number.toNat?_eq_some_iff]
  cases number.toNat? with
  | none => simp
  | some n =>
    simp only [Option.some.injEq]
    split <;> simp_all [eq_comm]

theorem uint8Numeral?_eq_none {number : Number} :
    uint8Numeral? number = none ↔ ∀ n : ℕ, n ≤ 255 → number.value ≠ n := by
  rw [Option.eq_none_iff_forall_ne_some]
  simp only [ne_eq, uint8Numeral?_eq_some]
  constructor
  · intro h n hn hvalue
    exact h (Nat.repr n) ⟨n, hvalue, hn, rfl⟩
  · rintro h _ ⟨n, hvalue, hn, _⟩
    exact h n hn hvalue

/-- What the call of a constructor on an argument makes. -/
inductive Makes : String → Source.Argument → Value → Prop
  | uint8 {number : Number} {n : ℕ} (value : number.value = n) (range : n ≤ 255) :
      Makes "u8" (.number number) (.uint8 n)
  | address (s : String) : Makes "address" (.text s) (.address s)

section Calls

variable {location : Location} {callee : String} {type : ElementaryType}

theorem ofConstructor?_eq_none :
    ElementaryType.ofConstructor? callee = none ↔ callee ≠ "u8" ∧ callee ≠ "address" := by
  unfold ElementaryType.ofConstructor?
  split_ifs <;> simp_all

theorem ofConstructor?_eq_some :
    ElementaryType.ofConstructor? callee = some type ↔
      (callee = "u8" ∧ type = .uint8) ∨ (callee = "address" ∧ type = .address) := by
  unfold ElementaryType.ofConstructor?
  split_ifs <;> simp_all [eq_comm]

theorem Makes.ofConstructor? {argument : Source.Argument} {value : Value}
    (h : Makes callee argument value) : ElementaryType.ofConstructor? callee = some value.type := by
  cases h <;> rfl

theorem constructed_eq_ok {argument : Source.Argument} {literal : Literal}
    (htype : ElementaryType.ofConstructor? callee = some type) :
    constructed location callee type argument = .ok literal ↔
      ∃ value, Makes callee argument value ∧ literal = value.literal := by
  constructor
  · intro h
    rcases ofConstructor?_eq_some.mp htype with ⟨rfl, rfl⟩ | ⟨rfl, rfl⟩
    · cases argument with
      | number number =>
        cases hnumeral : uint8Numeral? number with
        | none => simp [constructed, hnumeral, unsupported] at h
        | some numeral =>
          obtain ⟨n, hvalue, hrange, rfl⟩ := uint8Numeral?_eq_some.mp hnumeral
          simp only [constructed, hnumeral, Except.ok.injEq] at h
          exact ⟨.uint8 n, .uint8 hvalue hrange, h.symm⟩
      | _ => simp [constructed, malformed] at h
    · cases argument with
      | text s =>
        simp only [constructed, Except.ok.injEq] at h
        exact ⟨.address s, .address s, h.symm⟩
      | _ => simp [constructed, malformed] at h
  · rintro ⟨value, hmakes, rfl⟩
    rw [hmakes.ofConstructor?, Option.some.injEq] at htype
    subst htype
    cases hmakes with
    | uint8 hvalue hrange =>
      have hnumeral := uint8Numeral?_eq_some.mpr ⟨_, hvalue, hrange, rfl⟩
      simp only [Value.type, constructed, hnumeral]
      rfl
    | address s => rfl

theorem constructed_reportsUnsupported {argument : Source.Argument}
    (htype : ElementaryType.ofConstructor? callee = some type) :
    ReportsUnsupported (constructed location callee type argument) ↔
      callee = "u8" ∧ ∃ number, argument = .number number ∧
        ∀ n : ℕ, n ≤ 255 → number.value ≠ n := by
  rcases ofConstructor?_eq_some.mp htype with ⟨rfl, rfl⟩ | ⟨rfl, rfl⟩
  · cases argument with
    | number number =>
      simp only [constructed, ← uint8Numeral?_eq_none]
      cases hnumeral : uint8Numeral? number <;> simp [hnumeral]
    | _ => simp [constructed]
  · cases argument <;> simp [constructed]

theorem inferCall_of_makes {argument : Source.Argument} {value : Value}
    (h : Makes callee argument value) :
    inferCall location callee [argument] = .ok value.inferred := by
  have hliteral : constructed location callee value.type argument = .ok value.literal :=
    (constructed_eq_ok h.ofConstructor?).mpr ⟨value, h, rfl⟩
  simp only [inferCall, h.ofConstructor?, hliteral]
  rfl

theorem inferCall_eq_ok {arguments : List Source.Argument} {inferred : Inferred} :
    inferCall location callee arguments = .ok inferred ↔
      ∃ argument value, arguments = [argument] ∧ Makes callee argument value ∧
        inferred = value.inferred := by
  constructor
  · intro h
    unfold inferCall at h
    split at h
    · exact nomatch h
    · rename_i type htype
      split at h
      · rename_i argument
        obtain ⟨literal, hliteral, rfl⟩ := map_eq_ok.mp h
        obtain ⟨value, hmakes, rfl⟩ := (constructed_eq_ok htype).mp hliteral
        rw [hmakes.ofConstructor?, Option.some.injEq] at htype
        exact ⟨argument, value, rfl, hmakes, by rw [← htype]; rfl⟩
      · exact nomatch h
      · exact nomatch h
  · rintro ⟨argument, value, rfl, hmakes, rfl⟩
    exact inferCall_of_makes hmakes

theorem inferCall_reportsUnsupported {arguments : List Source.Argument} :
    ReportsUnsupported (inferCall location callee arguments) ↔
      (callee ≠ "u8" ∧ callee ≠ "address") ∨
        callee = "u8" ∧ ∃ number, arguments = [.number number] ∧
          ∀ n : ℕ, n ≤ 255 → number.value ≠ n := by
  rw [← ofConstructor?_eq_none]
  unfold inferCall
  cases htype : ElementaryType.ofConstructor? callee with
  | none => simp
  | some type =>
    match arguments with
    | [argument] => simp [constructed_reportsUnsupported htype]
    | [] => simp
    | first :: second :: later => simp

end Calls

theorem Value.type_ne_unresolved (value : Value) : value.type ≠ .unresolved := by
  cases value <;> exact nofun

/-- Every initializer that something is inferred from has a value. -/
theorem exists_value_of_infer {location : Location} {initializer : Source.Initializer}
    {inferred : Inferred} (h : infer location initializer = .ok inferred) :
    ∃ value : Value, inferred = value.inferred := by
  cases initializer with
  | text value => exact ⟨.text value, (Except.ok.inj h).symm⟩
  | boolean value => exact ⟨.boolean value, (Except.ok.inj h).symm⟩
  | call callee arguments =>
    obtain ⟨argument, value, _, _, hvalue⟩ := inferCall_eq_ok.mp h
    exact ⟨value, hvalue⟩
  | other kind => exact nomatch h

end ContractLowering
