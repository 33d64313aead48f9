namespace ThemedStyles

/-!
# Binary floating-point numbers of 64 bits

Numbers in style books and documents are read, compared and written, and
hardly ever computed with.  They are kept exactly: a finite number is a sign
and a count of units, one unit being 2^-1074, the least positive number of the
format.  A count is representable when it has at most 53 significant bits and
is below 2^2098, and every function here produces such counts.

Rounding goes to the nearest representable number, and to the one with an even
last bit when two are equally near.
-/

/-- A number of the binary format with 64 bits.  There is one not-a-number, and
zero has two signs. -/
inductive Binary64 where
  | nan
  | infinite (negative : Bool)
  | finite (negative : Bool) (units : Nat)
deriving DecidableEq, Inhabited

namespace Binary64

/-- The number of units in one. -/
def one : Nat := Nat.pow 2 1074

/-- Counts of units from here on round to infinity. -/
def limit : Nat := Nat.pow 2 2098

/-- The quotient of two counts, rounded to 53 significant bits, or to a whole
number where that is coarser. -/
def roundQuotient (dividend divisor : Nat) : Nat :=
  let shift := (dividend / divisor).log2 - 52
  let step := divisor * Nat.pow 2 shift
  let down := dividend / step
  let rest := dividend % step
  let rounded := if step < 2 * rest ∨ (2 * rest = step ∧ down % 2 = 1) then down + 1 else down
  rounded * Nat.pow 2 shift

/-- The number with this sign and count, infinite from the limit on. -/
def ofUnits (negative : Bool) (units : Nat) : Binary64 :=
  if units < limit then finite negative units else infinite negative

/-- The number nearest to `digits * 10 ^ exponent`.  Exponents beyond any
representable size are decided without forming the power. -/
def ofDecimal (negative : Bool) (digits : Nat) (exponent : Int) : Binary64 :=
  if digits = 0 then finite negative 0
  else if 400 < exponent then infinite negative
  else if exponent + digits.log2 < -401 then finite negative 0
  else if 0 ≤ exponent then
    ofUnits negative (roundQuotient (digits * Nat.pow 10 exponent.toNat * one) 1)
  else ofUnits negative (roundQuotient (digits * one) (Nat.pow 10 (-exponent).toNat))

/-- The number nearest to an integer. -/
def ofInt (value : Int) : Binary64 := ofDecimal (value < 0) value.natAbs 0

instance (value : Nat) : OfNat Binary64 value := ⟨ofDecimal false value 0⟩

instance : OfScientific Binary64 :=
  ⟨fun digits negativeExponent exponent =>
    ofDecimal false digits (if negativeExponent then -(exponent : Int) else exponent)⟩

/-- Neither infinite nor the not-a-number. -/
def isFinite : Binary64 -> Bool
  | finite _ _ => true
  | _ => false

/-- Numerical equality: the not-a-number differs from every number, itself
included, and the two zeros are equal. -/
def same : Binary64 -> Binary64 -> Bool
  | finite sign units, finite otherSign otherUnits =>
      units == otherUnits && (units == 0 || sign == otherSign)
  | infinite sign, infinite otherSign => sign == otherSign
  | _, _ => false

theorem same_nan (other : Binary64) : same nan other = false := by
  cases other <;> rfl

theorem same_self_of_isFinite (number : Binary64) (finiteNumber : number.isFinite = true) :
    same number number = true := by
  cases number with
  | nan => cases finiteNumber
  | infinite _ => cases finiteNumber
  | finite sign units => simp [same]

end Binary64
end ThemedStyles
