import ThemedStyles.Text.Blank

namespace ThemedStyles
namespace Selector

/-!
# Selector lists

A selector may be a list of entries with commas between them.  A comma inside
round or square brackets belongs to its entry.  The scan keeps the depth of open
brackets; a closing bracket without an opening one leaves the depth at zero.
-/

/-- The depth of open brackets behind a character. -/
def depthAfter (depth : Nat) (char : Char) : Nat :=
  if char = '(' ∨ char = '[' then depth + 1
  else if char = ')' ∨ char = ']' then depth - 1
  else depth

/-- Cut at the commas outside all brackets, starting at a depth. -/
def cutAtCommas : (depth : Nat) -> List Char -> List (List Char)
  | _, [] => [[]]
  | depth, char :: rest =>
      if char = ',' ∧ depth = 0 then [] :: cutAtCommas depth rest
      else match cutAtCommas (depthAfter depth char) rest with
        | [] => [[char]]
        | entry :: entries => (char :: entry) :: entries

/-- The entries of a selector list, trimmed of blanks.  There is always at
least one. -/
def entries (selector : List Char) : List (List Char) :=
  (cutAtCommas 0 selector).map Text.trim

/-- A selector list of these entries. -/
def joined (entries : List (List Char)) : List Char := [',', ' '].intercalate entries

/-- A selector below a scope, or by itself where the scope is empty. -/
def below (scope selector : List Char) : List Char :=
  if scope.isEmpty then selector else scope ++ ' ' :: selector

theorem cutAtCommas_ne_nil (depth : Nat) (chars : List Char) : cutAtCommas depth chars ≠ [] := by
  cases chars with
  | nil => simp [cutAtCommas]
  | cons char rest =>
      simp only [cutAtCommas]
      split
      · simp
      · split <;> simp

theorem entries_ne_nil (selector : List Char) : entries selector ≠ [] := by
  simp [entries, cutAtCommas_ne_nil]

end Selector
end ThemedStyles
