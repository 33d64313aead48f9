import ThemedStyles.Error

namespace ThemedStyles

/-!
# Files with themes or settings

A file is JSON unless its name says otherwise.  Only the extensions `yaml` and
`yml`, in small letters, make it YAML, and a name that merely begins with a dot
has no extension.
-/

/-- A file by its name, without a directory, and the bytes in it, if it exists. -/
structure File where
  name : String
  content : Option ByteArray

namespace File

/-- The extension of a name: what stands behind the last dot, if anything stands
before it. -/
def extension? (name : String) : Option String :=
  let reversed := name.toList.reverse
  let ending := reversed.takeWhile (· != '.')
  let stem := reversed.drop (ending.length + 1)
  if stem.isEmpty || name = ".." then none else some (String.ofList ending.reverse)

/-- Does the name make the file YAML? -/
def isYaml (file : File) : Bool :=
  match extension? file.name with
  | some extension => extension == "yaml" || extension == "yml"
  | none => false

/-- The text of a file. -/
def text (file : File) : Except Error String :=
  match file.content.bind String.fromUTF8? with
  | some text => .ok text
  | none => .error .unreadable

end File
end ThemedStyles
