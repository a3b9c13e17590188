import ContractLowering.Json.Number
import Mathlib.Algebra.Order.Field.Power
import Mathlib.Algebra.Order.Field.Rat
import Mathlib.Tactic.NormNum
import Mathlib.Tactic.Positivity

/-! # Values of numbers and numerals

A number of a document stands for a rational number: an integer for itself, a double for its
mantissa times a power of two, with its sign. A number is taken for a natural number exactly when
that is its value. The numeral of a natural number has digits only, no zero in front, and reads
back as the number.
-/

namespace ContractLowering

namespace Magnitude

def value (m : Magnitude) : ℚ :=
  m.mantissa * 2 ^ m.exponent

theorem value_nonneg (m : Magnitude) : 0 ≤ m.value := by
  unfold value
  positivity

theorem value_eq_zero_iff {m : Magnitude} : m.value = 0 ↔ m.mantissa = 0 := by
  have hpower : (2 : ℚ) ^ m.exponent ≠ 0 := zpow_ne_zero _ two_ne_zero
  simp [value, hpower]

theorem fraction_snd_pos (m : Magnitude) : 0 < m.fraction.2 := by
  simp only [fraction, scaleDown]
  split <;> simp

theorem value_eq_div (m : Magnitude) : m.value = (m.fraction.1 : ℚ) / m.fraction.2 := by
  simp only [value, fraction, scaleDown]
  split
  · rename_i hexponent
    have hpower : ((-m.exponent).toNat : ℤ) = -m.exponent := Int.toNat_of_nonneg hexponent
    rw [Nat.pow_eq, one_mul, Nat.cast_pow, Nat.cast_ofNat, ← zpow_natCast, hpower, zpow_neg,
      div_inv_eq_mul]
  · rename_i hexponent
    have hpower : ((- -m.exponent).toNat : ℤ) = m.exponent := by omega
    rw [Nat.pow_eq, Nat.cast_mul, Nat.cast_pow, Nat.cast_ofNat, ← zpow_natCast, hpower,
      Nat.cast_one, div_one]

theorem toNat?_eq_some_iff {m : Magnitude} {n : ℕ} : m.toNat? = some n ↔ m.value = n := by
  have hpos := m.fraction_snd_pos
  have hne : (m.fraction.2 : ℚ) ≠ 0 := by exact_mod_cast hpos.ne'
  have hvalue : m.value = n ↔ m.fraction.1 = n * m.fraction.2 := by
    rw [value_eq_div, div_eq_iff hne]
    norm_cast
  rw [hvalue]
  simp only [toNat?]
  constructor
  · intro h
    split_ifs at h with hrest
    rw [← Option.some.inj h]
    exact (Nat.div_mul_cancel (Nat.dvd_of_mod_eq_zero hrest)).symm
  · intro h
    simp [h, hpos]

end Magnitude

namespace Double

def value (d : Double) : ℚ :=
  if d.negative then -d.magnitude.value else d.magnitude.value

/-- Of the negative doubles only the zero is a natural number. -/
theorem toNat?_eq_some_iff {d : Double} {n : ℕ} : d.toNat? = some n ↔ d.value = n := by
  obtain ⟨negative, magnitude⟩ := d
  cases negative with
  | false => simp [toNat?, value, Magnitude.toNat?_eq_some_iff]
  | true =>
    simp only [toNat?, value, Bool.true_eq_false, false_or, if_true]
    split
    · rename_i hzero
      have hvalue : magnitude.value = 0 := Magnitude.value_eq_zero_iff.mpr hzero
      rw [Magnitude.toNat?_eq_some_iff, hvalue, neg_zero]
    · rename_i hzero
      have hpos : 0 < magnitude.value :=
        lt_of_le_of_ne magnitude.value_nonneg (Ne.symm (mt Magnitude.value_eq_zero_iff.mp hzero))
      have hne : -magnitude.value ≠ n := by
        have hn : (0 : ℚ) ≤ n := Nat.cast_nonneg n
        exact ne_of_lt (lt_of_lt_of_le (neg_lt_zero.mpr hpos) hn)
      simp [hne]

end Double

namespace Number

def value : Number → ℚ
  | integer value => value
  | double value => value.value

theorem toNat?_eq_some_iff {number : Number} {n : ℕ} :
    number.toNat? = some n ↔ number.value = n := by
  cases number with
  | double value => exact Double.toNat?_eq_some_iff
  | integer value =>
    rw [toNat?, Int.mem_toNat?, Number.value]
    norm_cast

end Number

/-- The number that a text of decimal digits spells. -/
def readDigits? (text : String) : Option ℕ :=
  if text ≠ "" ∧ text.toList.all Char.isDigit then
    some (Nat.ofDigitChars 10 text.toList 0)
  else
    none

/-- A text that spells a number in digits alone, with no zero in front of others. -/
structure IsNumeral (text : String) (n : ℕ) : Prop where
  reads : readDigits? text = some n
  leading : text.toList.head? = some '0' → text = "0"

theorem readDigits?_repr (n : ℕ) : readDigits? (Nat.repr n) = some n := by
  have hdigits : (Nat.repr n).toList.all Char.isDigit = true := by
    rw [Nat.toList_repr, List.all_eq_true]
    exact fun c hc => Nat.isDigit_of_mem_toDigits (by decide) (by decide) hc
  rw [readDigits?, if_pos ⟨Nat.repr_ne_empty, hdigits⟩, Nat.toList_repr,
    Nat.ofDigitChars_ten_toDigits]

/-- Only zero has a numeral with a zero in front. -/
theorem head?_toDigits {n : ℕ} (h : (Nat.toDigits 10 n).head? = some '0') : n = 0 := by
  induction n using Nat.base_induction 10 (by decide) with
  | single n hn =>
    rw [Nat.toDigits_of_lt_base hn, List.head?_cons, Option.some.injEq] at h
    have hcode : n.digitChar.toNat = 48 := by rw [h]; rfl
    rw [Nat.toNat_digitChar_of_lt_ten hn] at hcode
    omega
  | digit n k hk hn ih =>
    rw [← Nat.toDigits_append_toDigits (by decide) hn hk,
      List.head?_append_of_ne_nil _ Nat.toDigits_ne_nil] at h
    exact absurd (ih h) hn.ne'

theorem isNumeral_repr (n : ℕ) : IsNumeral (Nat.repr n) n where
  reads := readDigits?_repr n
  leading h := by
    rw [Nat.toList_repr] at h
    rw [head?_toDigits h]
    rfl

theorem toNat_bounds_of_isDigit {c : Char} (h : c.isDigit = true) :
    48 ≤ c.toNat ∧ c.toNat ≤ 57 := by
  simpa [Char.isDigit, UInt32.le_iff_toNat_le] using h

theorem digitChar_toNat_sub {c : Char} (h : c.isDigit = true) :
    Nat.digitChar (c.toNat - 48) = c := by
  have hbounds := toNat_bounds_of_isDigit h
  apply Char.toNat_inj.mp
  rw [Nat.toNat_digitChar_of_lt_ten (by omega)]
  omega

/-- Digits without a zero in front of others are written back as they are. -/
theorem toDigits_ofDigitChars {digits : List Char} (hdigits : ∀ c ∈ digits, c.isDigit = true)
    (hne : digits ≠ []) (hhead : digits.head? = some '0' → digits = ['0']) :
    Nat.toDigits 10 (Nat.ofDigitChars 10 digits 0) = digits := by
  induction digits using List.reverseRecOn with
  | nil => exact absurd rfl hne
  | append_singleton front c ih =>
    have hdigit : c.isDigit = true := hdigits c (by simp)
    have hlast : c.toNat - 48 < 10 := by
      have hbounds := toNat_bounds_of_isDigit hdigit
      omega
    have hc := digitChar_toNat_sub hdigit
    rw [Nat.ofDigitChars_append, Nat.ofDigitChars_cons, Nat.ofDigitChars_nil]
    change Nat.toDigits 10 (10 * Nat.ofDigitChars 10 front 0 + (c.toNat - 48)) = front ++ [c]
    by_cases hfront : front = []
    · subst hfront
      rw [Nat.ofDigitChars_nil, Nat.mul_zero, Nat.zero_add, Nat.toDigits_of_lt_base hlast, hc]
      rfl
    · have hzero : front.head? ≠ some '0' := by
        intro hzero
        have hwhole : front ++ [c] = [] ++ ['0'] :=
          hhead (by rw [List.head?_append_of_ne_nil _ hfront, hzero])
        exact hfront (List.append_inj_left' hwhole rfl)
      have hvalue := ih (fun c hc => hdigits c (by simp [hc])) hfront fun h => absurd h hzero
      have hpos : 0 < Nat.ofDigitChars 10 front 0 := by
        apply Nat.pos_of_ne_zero
        intro hnone
        rw [hnone] at hvalue
        exact hzero (by rw [← hvalue]; rfl)
      rw [← Nat.toDigits_append_toDigits (by decide) hpos hlast, hvalue,
        Nat.toDigits_of_lt_base hlast, hc]

/-- Each natural number has one numeral. -/
theorem isNumeral_iff_eq_repr {text : String} {n : ℕ} : IsNumeral text n ↔ text = Nat.repr n := by
  constructor
  · rintro ⟨hreads, hleading⟩
    unfold readDigits? at hreads
    split_ifs at hreads with htext
    obtain ⟨hne, hdigits⟩ := htext
    have hvalue := toDigits_ofDigitChars (List.all_eq_true.mp hdigits) (by simpa using hne) (by
      intro hhead
      rw [hleading hhead]
      rfl)
    rw [Option.some.inj hreads] at hvalue
    rw [← String.toList_inj, Nat.toList_repr, hvalue]
  · rintro rfl
    exact isNumeral_repr n

end ContractLowering
