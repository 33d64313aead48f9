import ThemedStyles.Json

namespace ThemedStyles
namespace Json

/-!
# Patching JSON values

A patch is itself a JSON value.  An object patches an object field by field:
known fields are patched in place, new ones are appended as they stand.  A null
leaves the target alone, and a new field whose value is null is not added.
Everything else takes the place of the target.
-/

mutual

/-- The target after the patch.  The recursion follows the patch. -/
def patched (target : Json) : (patch : Json) -> Json
  | object changes =>
      match target with
      | object fields => object (patchedFields fields changes)
      | _ => object changes
  | null => target
  | other => other

/-- The fields after the changes, one after the other. -/
def patchedFields (fields : List (String × Json)) :
    (changes : List (String × Json)) -> List (String × Json)
  | [] => fields
  | (name, change) :: rest =>
      match Entries.get? fields name with
      | some old => patchedFields (Entries.put fields name (patched old change)) rest
      | none =>
          if change.isNull then patchedFields fields rest
          else patchedFields (Entries.put fields name change) rest

end

/-- A null patch changes nothing. -/
@[simp] theorem patched_null (target : Json) : patched target null = target := by
  simp only [patched]

/-- An object with no fields changes no object. -/
@[simp] theorem patched_object_nil (fields : List (String × Json)) :
    patched (object fields) (object []) = object fields := by
  simp only [patched, patchedFields]

end Json
end ThemedStyles
