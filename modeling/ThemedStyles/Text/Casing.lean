namespace ThemedStyles
namespace Text

/-!
# Camel-case keys and dash-case names

Keys of a style book are written in camel case (`padSmall`), while class names
and property names in a stylesheet are written with dashes (`pad-small`).

`dashed` goes from keys to names in two sweeps.  The first opens a new word at
every maximal run of capital letters and digits and makes its letters small.
The second separates a digit from a small letter that follows it at once, so
that steps of a scale stay readable: `7Rem` becomes `7-rem`.

`camel` goes back: a dash is dropped where a letter or digit follows it, and
that letter becomes a capital.  Both touch ASCII letters and digits only.
-/

/-- A capital letter or a digit, the characters that start a new word. -/
def opensWord (char : Char) : Bool := char.isUpper || char.isDigit

/-- First sweep.  `inside` says that the previous character already opened a
word, so that a run gets one dash and not one for each of its characters. -/
def openRuns : (inside : Bool) -> List Char -> List Char
  | _, [] => []
  | inside, char :: rest =>
      if opensWord char then
        if inside then char.toLower :: openRuns true rest
        else '-' :: char.toLower :: openRuns true rest
      else char :: openRuns false rest

/-- Second sweep: a dash between a digit and a small letter right after it. -/
def partDigits : List Char -> List Char
  | [] => []
  | char :: rest =>
      if char.isDigit && rest.head?.any Char.isLower then char :: '-' :: partDigits rest
      else char :: partDigits rest

/-- The dash-case form, on characters. -/
def dashedChars (key : List Char) : List Char := partDigits (openRuns false key)

/-- The camel-case form, on characters. -/
def camelChars : List Char -> List Char
  | [] => []
  | [char] => [char]
  | char :: next :: rest =>
      if char = '-' ∧ next.isAlphanum then next.toUpper :: camelChars rest
      else char :: camelChars (next :: rest)

/-- The dash-case name of a camel-case key. -/
def dashed (key : String) : String := String.ofList (dashedChars key.toList)

/-- The camel-case key of a dash-case name. -/
def camel (name : String) : String := String.ofList (camelChars name.toList)

end Text
end ThemedStyles
