import ThemedStyles.Binary64

namespace ThemedStyles
namespace Binary64

/-!
# Reading decimal literals

A literal is an optional sign and then digits with at most one point, followed
by an optional exponent; one side of the point may be empty but not both.  The
words `nan`, `inf` and `infinity` are read in any case of letters.  The result
is the nearest number, whatever the length of the literal.
-/

/-- The value of a run of decimal digits. -/
def digitsValue (digits : List Char) : Nat :=
  digits.foldl (fun value digit => value * 10 + (digit.toNat - 48)) 0

/-- A whole number with an optional sign, and nothing else. -/
def signedDigits? (chars : List Char) : Option Int :=
  let (negative, digits) := match chars with
    | '-' :: rest => (true, rest)
    | '+' :: rest => (false, rest)
    | _ => (false, chars)
  if digits.isEmpty || !digits.all Char.isDigit then none
  else some (if negative then -(digitsValue digits : Int) else digitsValue digits)

/-- The exponent part: nothing, or a letter `e` and a whole number. -/
def exponentPart? : List Char -> Option Int
  | [] => some 0
  | mark :: rest => if mark = 'e' ∨ mark = 'E' then signedDigits? rest else none

/-- A literal without its sign. -/
def magnitude? (negative : Bool) (chars : List Char) : Option Binary64 :=
  let word := chars.map Char.toLower
  if word = "nan".toList then some nan
  else if word = "inf".toList ∨ word = "infinity".toList then some (infinite negative)
  else
    let whole := chars.takeWhile Char.isDigit
    let afterWhole := chars.dropWhile Char.isDigit
    let (fraction, tail) := match afterWhole with
      | '.' :: rest => (rest.takeWhile Char.isDigit, rest.dropWhile Char.isDigit)
      | _ => ([], afterWhole)
    if whole.isEmpty && fraction.isEmpty then none
    else (exponentPart? tail).map fun exponent =>
      ofDecimal negative (digitsValue (whole ++ fraction)) (exponent - fraction.length)

/-- The number that a literal denotes, `none` for any other text. -/
def ofLiteral? : List Char -> Option Binary64
  | '-' :: rest => magnitude? true rest
  | '+' :: rest => magnitude? false rest
  | chars => magnitude? false chars

end Binary64
end ThemedStyles
