import ContractLowering.Decimal.Layout

/-! # Numbers of a document

A numeral without a point or an exponent is an integer while 64 bits hold it; every other
numeral is a double. Doubles are read in rounded steps: the leading digits that fit 64 bits
are rounded first, then scaled by a rounded power of ten.
-/

namespace ContractLowering

inductive Number where
  | integer (value : Int)
  | double (value : Double)
  deriving DecidableEq

/-- A numeral taken apart: sign, digits before the point, digits after it, and exponent. A
missing fraction or exponent is not the same as an empty or zero one. -/
structure Numeral where
  negative : Bool
  whole : List Nat
  fraction : Option (List Nat)
  exponent : Option Int
  deriving DecidableEq

namespace Number

/-- Leading places from `-5` to `15` are written positionally. -/
def positional : PositionalRange := ⟨-5, 15⟩

def text : Number → String
  | integer value => toString value
  | double value => String.ofList (value.text positional)

/-- The number as a natural number, if it is one. -/
def toNat? : Number → Option Nat
  | integer value => value.toNat?
  | double value => value.toNat?

end Number

namespace Numeral

/-- The least number that 64 bits do not hold. -/
abbrev wordBound : Nat := 0x10000000000000000

/-- The negative of the least number that 64 bits hold with a sign. -/
abbrev signedBound : Nat := 0x8000000000000000

/-- Digits gathered into 64 bits, with the number of digits that did not fit: once one does
not fit, no later one is gathered. -/
def gather : Nat → List Nat → Nat × List Nat
  | significand, [] => (significand, [])
  | significand, digit :: digits =>
    if significand * 10 + digit < wordBound then
      gather (significand * 10 + digit) digits
    else
      (significand, digit :: digits)

/-- The significand that fits 64 bits and the power of ten that goes with it. Digits before
the point that do not fit still count as places. -/
def significand (numeral : Numeral) : Nat × Int :=
  let (whole, left) := gather 0 numeral.whole
  let fraction := numeral.fraction.getD []
  let (all, ignored) := gather whole fraction
  let gathered := fraction.length - ignored.length
  (all, (left.length : Int) - (gathered : Int) + numeral.exponent.getD 0)

/-- The power of ten with this exponent, rounded. -/
def power (exponent : Nat) : Option Magnitude :=
  Magnitude.nearest (Nat.pow 10 exponent) 1

/-- The significand scaled by a power of ten. A large negative exponent takes two divisions,
and beyond those the result is zero; a result that is infinite is refused. -/
def scale (significand : Nat) (exponent : Int) : Option Magnitude := do
  let start ← Magnitude.nearest significand 1
  if significand = 0 then
    return start
  else if 308 < exponent ∨ exponent < -616 then
    if 0 ≤ exponent then none else return .zero
  else if 0 ≤ exponent then
    start.mul (← power exponent.toNat)
  else if -308 ≤ exponent then
    start.div (← power (-exponent).toNat)
  else
    (← start.div (← power 308)).div (← power ((-exponent).toNat - 308))

/-- The integer that the numeral is, if it has neither point nor exponent and 64 bits hold
it. Minus zero is not an integer. -/
def toInt? (numeral : Numeral) : Option Int :=
  let value : Nat := numeral.whole.foldl (fun n digit => n * 10 + digit) 0
  if numeral.fraction.isSome ∨ numeral.exponent.isSome then
    none
  else if numeral.negative then
    if 0 < value ∧ value ≤ signedBound then some (-(value : Int)) else none
  else
    if value < wordBound then some value else none

/-- The number that a numeral stands for; there is none for one that is out of range. -/
def toNumber? (numeral : Numeral) : Option Number :=
  match numeral.toInt? with
  | some value => some (.integer value)
  | none =>
    let (significand, exponent) := numeral.significand
    (scale significand exponent).map fun magnitude => .double ⟨numeral.negative, magnitude⟩

end Numeral

end ContractLowering
