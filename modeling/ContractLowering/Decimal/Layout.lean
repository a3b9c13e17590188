import ContractLowering.Decimal.Shortest

/-! # Written forms of a decimal

A decimal is written positionally while its leading place lies in a given range, with at
least one digit on each side of the point, and otherwise with one digit before the point and
a signed exponent.
-/

namespace ContractLowering

/-- The leading places that are written positionally. -/
structure PositionalRange where
  least : Int
  greatest : Int

namespace Decimal

def text (range : PositionalRange) (d : Decimal) : List Char :=
  let digits := Nat.toDigits 10 d.digits
  let place : Int := d.exponent + digits.length - 1
  if d.digits = 0 then
    ['0', '.', '0']
  else if range.least ≤ place ∧ place ≤ range.greatest then
    if 0 ≤ place then
      let whole := digits.take (place.toNat + 1)
      let fraction := digits.drop (place.toNat + 1)
      whole ++ List.replicate (place.toNat + 1 - whole.length) '0' ++ '.' ::
        (if fraction.isEmpty then ['0'] else fraction)
    else
      '0' :: '.' :: List.replicate ((-place).toNat - 1) '0' ++ digits
  else
    let fraction := digits.drop 1
    digits.take 1 ++ (if fraction.isEmpty then [] else '.' :: fraction) ++
      'e' :: (if place < 0 then '-' else '+') :: Nat.toDigits 10 place.natAbs

end Decimal

/-- The shortest text that reads back as the double. -/
def Double.text (range : PositionalRange) (d : Double) : List Char :=
  (if d.negative then ['-'] else []) ++ d.magnitude.shortest.text range

end ContractLowering
