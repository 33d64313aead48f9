import ThemedStyles.Binary64.Literal
import ThemedStyles.Json

namespace ThemedStyles
namespace Json

/-!
# Numbers in JSON texts

A number without fraction and exponent is an integer if it fits 64 bits.
Every other number is a binary one, found in three steps.  The digits are
taken into a whole significand as long as that stays below 2^64; digits beyond
that only count towards the exponent or, behind the point, for nothing.  The
significand is rounded once.  Then it is scaled by one rounded multiplication
or division by a power of ten, and by two divisions where the exponent is below
the table of powers.  A result beyond the largest number is refused, a result
below the least one is zero.
-/

/-- The parts of a number as written. -/
structure NumberLiteral where
  negative : Bool
  whole : List Char
  fraction : Option (List Char)
  exponent : Option Int

/-- Take digits into a significand while it stays below 2^64, and count those
left over. -/
def takeDigits : Nat -> List Char -> Nat × Nat
  | significand, [] => (significand, 0)
  | significand, digit :: rest =>
      let next := significand * 10 + (digit.toNat - 48)
      if next < Nat.pow 2 64 then takeDigits next rest else (significand, rest.length + 1)

/-- The units of the number nearest to a power of ten. -/
def powerOfTen (exponent : Nat) : Nat := 
  Binary64.roundQuotient (Nat.pow 10 exponent * Binary64.one) 1

/-- The largest exponent in the table of powers. -/
def largestPower : Nat := 308

/-- The quotient of two counts of units, rounded. -/
def unitsQuotient (dividend divisor : Nat) : Nat :=
  Binary64.roundQuotient (dividend * Binary64.one) divisor

/-- A rounded significand scaled by a power of ten, in units. -/
def scaledUnits? (significand : Nat) (exponent : Int) : Option Nat :=
  let units := Binary64.roundQuotient (significand * Binary64.one) 1
  if units = 0 then some 0
  else if (largestPower : Int) < exponent then none
  else if 0 ≤ exponent then
    let scaled := Binary64.roundQuotient (units * powerOfTen exponent.toNat) Binary64.one
    if scaled < Binary64.limit then some scaled else none
  else if -(largestPower : Int) ≤ exponent then
    some (unitsQuotient units (powerOfTen (-exponent).toNat))
  else if -(2 * largestPower : Int) ≤ exponent then
    some (unitsQuotient (unitsQuotient units (powerOfTen largestPower))
      (powerOfTen (-exponent - largestPower).toNat))
  else some 0

/-- The value of a number, `none` when it is out of range. -/
def NumberLiteral.value? (literal : NumberLiteral) : Option Json :=
  let (significand, left) := takeDigits 0 literal.whole
  if literal.fraction.isNone && literal.exponent.isNone && left = 0 &&
      (!literal.negative || (0 < significand && significand ≤ Nat.pow 2 63)) then
    some (integer (if literal.negative then -(significand : Int) else significand))
  else
    let fraction := literal.fraction.getD []
    let (digits, unread) := takeDigits significand fraction
    let exponent := (left : Int) - (fraction.length - unread : Nat) + literal.exponent.getD 0
    (scaledUnits? digits exponent).map fun units =>
      float (Binary64.finite literal.negative units)

end Json
end ThemedStyles
