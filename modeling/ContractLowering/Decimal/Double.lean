/-! # Finite double-precision numbers

A finite double is a sign and a magnitude `mantissa * 2 ^ exponent`. The proof field of
`Magnitude` leaves exactly one pair for each value that the format holds, so equality of
magnitudes is equality of values. All arithmetic is exact and rounds once, to the nearest
magnitude, with a tie going to the even mantissa.
-/

namespace ContractLowering

/-- A mantissa has at most 53 binary digits. -/
abbrev mantissaBound : Nat := 0x20000000000000

/-- The least mantissa of 53 binary digits; smaller ones go with the least exponent only. -/
abbrev leastNormal : Nat := 0x10000000000000

/-- A non-negative finite double, normalised. -/
structure Magnitude where
  mantissa : Nat
  exponent : Int
  fits : mantissa < mantissaBound ∧ -1074 ≤ exponent ∧ exponent ≤ 971 ∧
    (leastNormal ≤ mantissa ∨ exponent = -1074)
  deriving DecidableEq

namespace Magnitude

def zero : Magnitude := ⟨0, -1074, by decide⟩

/-- The magnitude with these parts, if the format holds it. -/
def ofParts? (mantissa : Nat) (exponent : Int) : Option Magnitude :=
  if fits : mantissa < mantissaBound ∧ -1074 ≤ exponent ∧ exponent ≤ 971 ∧
      (leastNormal ≤ mantissa ∨ exponent = -1074) then
    some ⟨mantissa, exponent, fits⟩
  else
    none

/-- The fraction `num / den` divided by `2 ^ exponent`. -/
def scaleDown (num den : Nat) (exponent : Int) : Nat × Nat :=
  if 0 ≤ exponent then (num, den * Nat.pow 2 exponent.toNat)
  else (num * Nat.pow 2 (-exponent).toNat, den)

/-- The integer nearest to `num / den`, a tie going to the even one. -/
def roundEven (num den : Nat) : Nat :=
  let quotient := num / den
  let rest := 2 * (num % den)
  if rest < den ∨ (rest = den ∧ quotient % 2 = 0) then quotient else quotient + 1

/-- The power of two that belongs to the last place of `num / den`. -/
def lastPlace (num den : Nat) : Int :=
  let guess : Int := (num.log2 : Int) - den.log2 - 53
  let (n, d) := scaleDown num den guess
  max (if d * mantissaBound ≤ n then guess + 1 else guess) (-1074)

/-- The magnitude nearest to `num / den`; there is none when the nearest is infinite. -/
def nearest (num den : Nat) : Option Magnitude :=
  if num = 0 then
    some zero
  else
    let exponent := lastPlace num den
    let (n, d) := scaleDown num den exponent
    let mantissa := roundEven n d
    if mantissa = mantissaBound then ofParts? leastNormal (exponent + 1)
    else ofParts? mantissa exponent

/-- The magnitude as a fraction. -/
def fraction (m : Magnitude) : Nat × Nat :=
  scaleDown m.mantissa 1 (-m.exponent)

def mul (a b : Magnitude) : Option Magnitude :=
  nearest (a.fraction.1 * b.fraction.1) (a.fraction.2 * b.fraction.2)

/-- Rounded quotient, for a divisor other than zero. -/
def div (a b : Magnitude) : Option Magnitude :=
  nearest (a.fraction.1 * b.fraction.2) (a.fraction.2 * b.fraction.1)

/-- The magnitude as an integer, if it is one. -/
def toNat? (m : Magnitude) : Option Nat :=
  let (n, d) := m.fraction
  if n % d = 0 then some (n / d) else none

end Magnitude

structure Double where
  negative : Bool
  magnitude : Magnitude
  deriving DecidableEq

namespace Double

/-- The double as a natural number, if it is one; both zeros are. -/
def toNat? (d : Double) : Option Nat :=
  if d.negative = false ∨ d.magnitude.mantissa = 0 then d.magnitude.toNat? else none

end Double

end ContractLowering
