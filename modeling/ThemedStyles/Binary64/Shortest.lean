import ThemedStyles.Binary64

namespace ThemedStyles
namespace Binary64

/-!
# The shortest decimal text of a number

Written numbers use the fewest digits that still read back as the same number,
and among those the digits nearest to it.  The search walks from coarse to fine
over the grids of the multiples of a power of ten.  On each grid only the two
neighbours of the number can lie in the interval of reals that round to it,
whose ends belong to it exactly when the last bit of the number is even.

A layout says how the digits are set: where positional notation ends, whether a
whole number keeps a fraction part, and what happens to two equally near
candidates.
-/

/-- The digits `digits * 10 ^ exponent` of a positive number. -/
structure Decimal where
  digits : Nat
  exponent : Int

/-- The interval of reals that round to a count of units.  Both distances are
in quarters of a unit. -/
structure Rounding where
  below : Nat
  above : Nat
  closed : Bool

/-- Above, the interval reaches half a step.  Below it reaches half a step too,
but half of that where the number is the first of its binade. -/
def Rounding.ofUnits (units : Nat) : Rounding :=
  let shift := units.log2 - 52
  let mantissa := units / Nat.pow 2 shift
  { below := if mantissa = Nat.pow 2 52 ∧ 0 < shift then Nat.pow 2 shift else Nat.pow 2 (shift + 1)
    above := Nat.pow 2 (shift + 1)
    closed := mantissa % 2 = 0 }

/-- Does a distance, in quarters of a unit, stay within a reach? -/
def Rounding.covers (rounding : Rounding) (reach distance : Nat) : Bool :=
  distance < reach || (rounding.closed && distance = reach)

/-- The neighbour of a count on the grid of multiples of `10 ^ exponent` that
rounds to it.  Of two, the nearer is taken; of two equally near ones the upper
is taken, or the even one when `tiesToEven` says so. -/
def neighbour? (tiesToEven : Bool) (units : Nat) (exponent : Int) : Option Decimal :=
  let scale := Nat.pow 10 (-exponent).toNat
  let dividend := units * scale
  let divisor := one * Nat.pow 10 exponent.toNat
  let down := dividend / divisor
  let gap := dividend % divisor
  let rounding := Rounding.ofUnits units
  let lowerFits := rounding.covers (rounding.below * scale) (4 * gap)
  let upperFits := rounding.covers (rounding.above * scale) (4 * (divisor - gap))
  let upperWins := divisor < 2 * gap ∨
    (2 * gap = divisor ∧ (tiesToEven = false ∨ down % 2 = 1))
  if lowerFits && upperFits then some ⟨if upperWins then down + 1 else down, exponent⟩
  else if lowerFits then some ⟨down, exponent⟩
  else if upperFits then some ⟨down + 1, exponent⟩
  else none

/-- Search from the grid of `10 ^ exponent` downwards through `count` finer
grids.  The last grid answers in any case. -/
def searchGrids (tiesToEven : Bool) (units : Nat) : Nat -> Int -> Decimal
  | 0, exponent => ⟨units * Nat.pow 10 (-exponent).toNat / (one * Nat.pow 10 exponent.toNat), exponent⟩
  | count + 1, exponent =>
      match neighbour? tiesToEven units exponent with
      | some decimal => decimal
      | none => searchGrids tiesToEven units count (exponent - 1)

/-- A grid at least as coarse as the number itself. -/
def coarsestExponent (units : Nat) : Int := ((units.log2 : Int) - 1073) * 30103 / 100000 + 1

/-- The shortest digits of a positive count.  Seventeen digits always suffice,
and the first grid is at most two steps too coarse. -/
def shortest (tiesToEven : Bool) (units : Nat) : Decimal :=
  searchGrids tiesToEven units 20 (coarsestExponent units)

/-- The digit characters without the zeros at their end, and the place of the
point counted from the first digit. -/
def Decimal.spelled (decimal : Decimal) : List Char × Int :=
  let digits := Nat.toDigits 10 decimal.digits
  let kept := (digits.reverse.dropWhile (· = '0')).reverse
  (kept, digits.length + decimal.exponent)

/-- How a format sets the digits of a number. -/
structure Layout where
  /-- Positional notation is used while the point lies behind this place … -/
  pointAfter : Option Int
  /-- … and at most at this place. -/
  pointUpTo : Option Int
  wholeEnding : List Char
  /-- Of two equally near candidates, take the even one. -/
  tiesToEven : Bool

/-- Stylesheets and displayed values are positional at every size, whole
numbers have no point, and of two equally near texts the larger is written. -/
def Layout.positional : Layout := ⟨none, none, [], false⟩

/-- Documents write numbers from 1e-5 up to 1e16 positionally, always with a
fraction part, and others with an exponent. -/
def Layout.document : Layout := ⟨some (-5), some 16, ['.', '0'], true⟩

def Layout.isPositional (layout : Layout) (place : Int) : Bool :=
  layout.pointAfter.all (· < place) && layout.pointUpTo.all (place ≤ ·)

/-- Digits with the point at `place`, filled up with zeros. -/
def Layout.setPositional (layout : Layout) (digits : List Char) (place : Int) : List Char :=
  if place ≤ 0 then '0' :: '.' :: List.replicate (-place).toNat '0' ++ digits
  else if digits.length ≤ place.toNat then
    digits ++ List.replicate (place.toNat - digits.length) '0' ++ layout.wholeEnding
  else digits.take place.toNat ++ '.' :: digits.drop place.toNat

def setScientific (digits : List Char) (place : Int) : List Char :=
  let exponent := place - 1
  let fraction := if digits.length ≤ 1 then [] else '.' :: digits.drop 1
  let sign := if exponent < 0 then '-' else '+'
  digits.take 1 ++ fraction ++ 'e' :: sign :: Nat.toDigits 10 exponent.natAbs

def Layout.magnitude (layout : Layout) (units : Nat) : List Char :=
  if units = 0 then '0' :: layout.wholeEnding
  else
    let (digits, place) := (shortest layout.tiesToEven units).spelled
    if layout.isPositional place then layout.setPositional digits place
    else setScientific digits place

/-- The text of a number.  The words for numbers that are not finite are those
of displayed values. -/
def Layout.text (layout : Layout) : Binary64 -> String
  | nan => "NaN"
  | infinite negative => if negative then "-inf" else "inf"
  | finite negative units =>
      String.ofList (if negative then '-' :: layout.magnitude units else layout.magnitude units)

end Binary64
end ThemedStyles
