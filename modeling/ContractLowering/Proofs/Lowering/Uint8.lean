import ContractLowering.Proofs.Lowering.Inference
import ContractLowering.Proofs.Source.Variable

/-! # Numbers of eight bits

A call of `u8` keeps the exact value of its number. It has a literal when the value is an integer
that eight bits hold, however the number was written, and the literal is the one numeral of that
integer; every other number is unsupported.
-/

namespace ContractLowering

open Source (Calls Initializer)

/-- The call of `u8` on a number. -/
def Source.Initializer.uint8 (number : Number) : Initializer :=
  .call "u8" [.number number]

section Numbers

variable {location : Location} {number : Number}

theorem infer_uint8_eq_ok {inferred : Inferred} :
    infer location (.uint8 number) = .ok inferred ↔
      ∃ n : ℕ, number.value = n ∧ n ≤ 255 ∧ inferred = ⟨.uint8, .ofNumeral (Nat.repr n)⟩ := by
  rw [Initializer.uint8, infer, inferCall_eq_ok]
  constructor
  · rintro ⟨argument, value, hargument, hmakes, rfl⟩
    cases hargument
    generalize "u8" = callee at hmakes
    cases hmakes with
    | uint8 hvalue hrange => exact ⟨_, hvalue, hrange, rfl⟩
  · rintro ⟨n, hvalue, hrange, rfl⟩
    exact ⟨_, .uint8 n, rfl, .uint8 hvalue hrange, rfl⟩

theorem infer_uint8_outside (h : ¬ ∃ n : ℕ, number.value = n ∧ n ≤ 255) :
    infer location (.uint8 number) = unsupported location (.uint8 number) := by
  have hnone : uint8Numeral? number = none := by
    apply uint8Numeral?_eq_none.mpr
    intro n hrange hvalue
    exact h ⟨n, hvalue, hrange⟩
  change (do return Inferred.mk .uint8 (← constructed location "u8" .uint8 (.number number))) = _
  rw [constructed, hnone]
  rfl

/-- How a number is written does not matter. -/
theorem infer_uint8_toOption {other : Number} (h : other.value = number.value) :
    (infer location (.uint8 other)).toOption = (infer location (.uint8 number)).toOption := by
  by_cases hnumber : ∃ n : ℕ, number.value = n ∧ n ≤ 255
  · obtain ⟨n, hvalue, hrange⟩ := hnumber
    rw [infer_uint8_eq_ok.mpr ⟨n, hvalue, hrange, rfl⟩,
      infer_uint8_eq_ok.mpr ⟨n, h.trans hvalue, hrange, rfl⟩]
  · rw [infer_uint8_outside hnumber, infer_uint8_outside (by rwa [h])]
    rfl

/-- A node that calls `u8` on a number is read as that call, with the number as it is. -/
theorem read_uint8 {value : Json} {argument : Members} (hcalls : Calls value "u8" [argument])
    (hgiven : argument.get? "value" = some (.number number)) :
    Initializer.read location value = .ok (.uint8 number) := by
  have hspelt := Initializer.Spelt.call hcalls
  rw [List.map_singleton, Source.Argument.ofNode_eq_number.mpr hgiven] at hspelt
  exact Initializer.read_eq_ok.mpr hspelt

end Numbers

/-- A number makes a literal exactly when its value is an integer from 0 to 255, and then the
literal is the numeral of the value, so that numbers of one value make the same literal. -/
theorem infer_uint8_exact (location : Location) (number : Number) :
    (∀ inferred, infer location (.uint8 number) = .ok inferred ↔
      ∃ (n : ℕ) (numeral : String), number.value = n ∧ n ≤ 255 ∧ IsNumeral numeral n ∧
        inferred = ⟨.uint8, .ofNumeral numeral⟩) ∧
    ((∃ inferred, infer location (.uint8 number) = .ok inferred) ↔
      ∃ n : ℕ, number.value = n ∧ n ≤ 255) ∧
    ((¬ ∃ n : ℕ, number.value = n ∧ n ≤ 255) →
      infer location (.uint8 number) = .error (.unsupported location (.uint8 number))) ∧
    (∀ other : Number, other.value = number.value →
      (infer location (.uint8 other)).toOption = (infer location (.uint8 number)).toOption) ∧
    ∀ (value : Json) (argument : Members), Calls value "u8" [argument] →
      argument.get? "value" = some (.number number) →
      (do infer location (← Initializer.read location value)) =
        infer location (.uint8 number) := by
  refine ⟨fun inferred => ?_, ?_, infer_uint8_outside, fun other => infer_uint8_toOption, ?_⟩
  · simp only [infer_uint8_eq_ok, isNumeral_iff_eq_repr]
    simp
  · simp only [infer_uint8_eq_ok]
    constructor
    · rintro ⟨_, n, hvalue, hrange, _⟩
      exact ⟨n, hvalue, hrange⟩
    · rintro ⟨n, hvalue, hrange⟩
      exact ⟨_, n, hvalue, hrange, rfl⟩
  · intro value argument hcalls hgiven
    rw [read_uint8 hcalls hgiven]
    rfl

/-- The negative zero makes the literal of zero, 256 makes none, and 7 is read out of its node. -/
theorem infer_uint8_exact_minus_zero :
    let location : Location := .declarator (some "x")
    let call : Json := .object
      [("arguments", .array [.object [("value", .number (.integer 7))]]),
        ("callee", .object [("name", .text "u8")]), ("type", .text "CallExpression")]
    (infer location (.uint8 (.double ⟨true, .zero⟩))).toOption =
        some ⟨.uint8, .ofNumeral "0"⟩ ∧
      infer location (.uint8 (.integer 256)) =
        .error (.unsupported location (.uint8 (.integer 256))) ∧
      (do infer location (← Initializer.read location call)) =
        .ok ⟨.uint8, .ofNumeral "7"⟩ := by
  intro location call
  have hzero : (Number.integer 0).value = (0 : ℕ) := Number.toNat?_eq_some_iff.mp (by decide)
  have hminus : (Number.double ⟨true, .zero⟩).value = (0 : ℕ) := by
    simp [Number.value, Double.value, Magnitude.value, Magnitude.zero]
  have hseven : (Number.integer 7).value = (7 : ℕ) := Number.toNat?_eq_some_iff.mp (by decide)
  have hlarge : ¬ ∃ n : ℕ, (Number.integer 256).value = n ∧ n ≤ 255 := by
    rintro ⟨n, hvalue, hrange⟩
    exact uint8Numeral?_eq_none.mp (by decide) n hrange hvalue
  obtain ⟨hliteral, -, -, hsame, -⟩ := infer_uint8_exact location (.integer 0)
  obtain ⟨-, -, hrefused, -, -⟩ := infer_uint8_exact location (.integer 256)
  obtain ⟨hread, -, -, -, hnode⟩ := infer_uint8_exact location (.integer 7)
  refine ⟨?_, hrefused hlarge, ?_⟩
  · rw [hsame _ (hminus.trans hzero.symm),
      (hliteral _).mpr ⟨0, "0", hzero, by decide, isNumeral_repr 0, rfl⟩]
    rfl
  · rw [hnode call [("value", .number (.integer 7))] ⟨_, _, rfl, rfl, rfl, rfl, rfl⟩ rfl]
    exact (hread _).mpr ⟨7, "7", hseven, by decide, isNumeral_repr 7, rfl⟩

end ContractLowering
