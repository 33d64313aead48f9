namespace ThemedStyles
namespace Text

/-!
# Blank characters, trimming and words

Blank means the Unicode property `White_Space`, which holds of twenty-five
characters.  Class phrases and label phrases are cut into words at them, and
the entries of a selector list are trimmed of them.
-/

/-- The Unicode property `White_Space`. -/
def isBlank (char : Char) : Bool :=
  let code := char.toNat
  (9 ≤ code && code ≤ 13) || code = 0x20 || code = 0x85 || code = 0xA0 || code = 0x1680 ||
    (0x2000 ≤ code && code ≤ 0x200A) || code = 0x2028 || code = 0x2029 || code = 0x202F ||
    code = 0x205F || code = 0x3000

/-- Drop the blanks at both ends. -/
def trim (text : List Char) : List Char :=
  ((text.dropWhile isBlank).reverse.dropWhile isBlank).reverse

/-- Cut at every character that satisfies `cut`, which itself belongs to no
part.  There is always one part more than there are cuts. -/
def splitWhere (cut : Char -> Bool) : List Char -> List (List Char)
  | [] => [[]]
  | char :: rest =>
      if cut char then [] :: splitWhere cut rest
      else match splitWhere cut rest with
        | [] => [[char]]
        | part :: parts => (char :: part) :: parts

/-- The maximal runs of characters that are not blank. -/
def words (text : String) : List String :=
  ((splitWhere isBlank text.toList).filter fun part => !part.isEmpty).map String.ofList

/-- Every character that core counts as whitespace is blank. -/
theorem isBlank_of_isWhitespace (char : Char) (white : char.isWhitespace = true) :
    isBlank char = true := by
  simp only [Char.isWhitespace, Bool.or_eq_true, decide_eq_true_eq] at white
  rcases white with ((rfl | rfl) | rfl) | rfl <;> decide

end Text
end ThemedStyles
