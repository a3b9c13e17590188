import ContractLowering.Decimal.Double

/-! # Shortest decimals that read back

The decimals that round to a given magnitude form an interval. Among those with the fewest
digits the one nearest to the magnitude is chosen, a tie going to the even last digit.
Seventeen digits always suffice. All comparisons are between exact fractions.
-/

namespace ContractLowering

/-- The number `digits * 10 ^ exponent`. -/
structure Decimal where
  digits : Nat
  exponent : Int
  deriving DecidableEq

namespace Decimal

/-- The fraction `num / den` divided by `10 ^ exponent`. -/
def scaleDown (num den : Nat) (exponent : Int) : Nat × Nat :=
  if 0 ≤ exponent then (num, den * Nat.pow 10 exponent.toNat)
  else (num * Nat.pow 10 (-exponent).toNat, den)

/-- The exponent of the leading decimal digit of `num / den`. -/
def leadingPlace (num den : Nat) : Int :=
  if den ≤ num then
    ((Nat.toDigits 10 (num / den)).length : Int) - 1
  else
    -(((List.range 400).find? fun t => den ≤ num * Nat.pow 10 t).getD 0 : Nat)

/-- The same number without trailing zeros among its digits; `fuel` bounds their count. -/
def trim : Nat → Decimal → Decimal
  | 0, d => d
  | fuel + 1, d =>
    if d.digits ≠ 0 ∧ d.digits % 10 = 0 then trim fuel ⟨d.digits / 10, d.exponent + 1⟩ else d

end Decimal

namespace Magnitude

/-- The bounds of the interval that rounds to the magnitude, as numerators over four times
the denominator of its fraction. The gap below a power of two is half as wide. -/
def roundingBounds (m : Magnitude) : Nat × Nat :=
  let n := m.fraction.1
  let unit := n / m.mantissa
  let below := if m.mantissa = leastNormal ∧ -1074 < m.exponent then unit else 2 * unit
  (4 * n - below, 4 * n + 2 * unit)

/-- Whether `num / den` rounds to the magnitude; the bounds do iff the mantissa is even. -/
def roundsFrom (m : Magnitude) (num den : Nat) : Bool :=
  let (low, high) := m.roundingBounds
  let scaled := 4 * num * m.fraction.2
  if m.mantissa % 2 = 0 then
    decide (low * den ≤ scaled ∧ scaled ≤ high * den)
  else
    decide (low * den < scaled ∧ scaled < high * den)

/-- The nearest decimal in units of `10 ^ place` that rounds to the magnitude. -/
def onGrid? (m : Magnitude) (place : Int) : Option Decimal :=
  let (n, d) := Decimal.scaleDown m.fraction.1 m.fraction.2 place
  let candidate (q : Nat) : Option Decimal :=
    let (num, den) := Decimal.scaleDown q 1 (-place)
    if m.roundsFrom num den then some ⟨q, place⟩ else none
  let nearest := roundEven n d
  let other := if nearest = n / d then n / d + 1 else n / d
  candidate nearest <|> candidate other

/-- The shortest decimal that reads back as the magnitude. -/
def shortest (m : Magnitude) : Decimal :=
  if m.mantissa = 0 then
    ⟨0, 0⟩
  else
    let top := Decimal.leadingPlace m.fraction.1 m.fraction.2
    let grids := (List.range 17).map fun (i : Nat) => top - (i : Int)
    Decimal.trim 17 ((grids.findSome? m.onGrid?).getD ⟨0, 0⟩)

end Magnitude

end ContractLowering
