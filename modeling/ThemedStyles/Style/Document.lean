import ThemedStyles.Json.Reader
import ThemedStyles.Json.Writer
import ThemedStyles.Style

namespace ThemedStyles

/-!
# Style values as JSON

Texts are strings, numbers are numbers, books are objects and an absent value
is null.  Neither truth values nor lists are style values, at any depth.  A
number that is not finite has no JSON form and is written as null.
-/

namespace Value

mutual

/-- The JSON form of a value. -/
def toJson : Value -> Json
  | text content => .string content
  | number value => if value.isFinite then .float value else .null
  | book entries => .object (toFields entries)
  | absent => .null

/-- The JSON forms of the entries of a book. -/
def toFields : List (String × Value) -> List (String × Json)
  | [] => []
  | (key, value) :: rest => (key, value.toJson) :: toFields rest

end

mutual

/-- The value of a JSON form.  Integers are rounded to the nearest number. -/
def ofJson? : Json -> Option Value
  | .null => some absent
  | .boolean _ => none
  | .integer value => some (number (Binary64.ofInt value))
  | .float value => some (number value)
  | .string content => some (text content)
  | .list _ => none
  | .object fields => (ofFields? fields).map book

/-- The values of the fields of an object. -/
def ofFields? : List (String × Json) -> Option (List (String × Value))
  | [] => some []
  | (key, field) :: rest => do
      let value ← ofJson? field
      let values ← ofFields? rest
      some ((key, value) :: values)

end

/-- The value that a JSON text denotes.  Every occurrence of a repeated key
has to be a value, and the last one counts. -/
def read? (text : String) : Option Value := do
  let written ← Json.asWritten? text
  let value ← ofJson? written
  some value.collapsed

end Value

namespace Book

/-- The JSON form of a book. -/
def toJson (book : Book) : Json := Value.toJson (.book book)

/-- The book of a JSON form, which must be an object. -/
def ofJson? (json : Json) : Option Book := (Value.ofJson? json).bind Value.book?

/-- The book that a JSON text denotes. -/
def read? (text : String) : Option Book := (Value.read? text).bind Value.book?

end Book
end ThemedStyles
