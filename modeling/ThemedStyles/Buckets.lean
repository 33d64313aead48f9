import ThemedStyles.Compiler
import ThemedStyles.Registry

namespace ThemedStyles

/-!
# Width buckets

A width falls into the bucket with the greatest least width that it reaches.
An observer turns widths into classes.  A bucket may carry a style book, which
is compiled under the class of the bucket whenever a width falls into it; as long
as nothing is forgotten, that writes something the first time only.  Listeners
hear of every width whose bucket differs from the one before.
-/

/-- The buckets with their least widths, narrowest first. -/
def breakpoints : List (String × Nat) :=
  [("xs", 0), ("sm", 600), ("md", 900), ("lg", 1200), ("xl", 1536)]

/-- The bucket of a width.  The narrowest bucket takes every width. -/
def bucketOf (width : Nat) : String :=
  match breakpoints.reverse.find? fun breakpoint => breakpoint.2 ≤ width with
  | some breakpoint => breakpoint.1
  | none => "xs"

def bucketClass (bucket : String) : String := "size-" ++ bucket

/-- The answer to a width: the class of its bucket, and what the listeners hear. -/
structure Observation where
  className : String
  notices : List Notice

/-- Where notices are passed on, an observation stands for its own. -/
instance : Coe Observation (List Notice) := ⟨Observation.notices⟩

/-- The books of buckets, the bucket of the last width, and the listeners. -/
structure WidthObserver where
  books : Entries Book
  current : Option String
  listeners : List String

namespace WidthObserver

/-- An observer that has seen no width, with these books by bucket. -/
def new (books : Entries Book) : WidthObserver := ⟨books, none, []⟩

def listen (observer : WidthObserver) (listener : String) : WidthObserver :=
  { observer with listeners := observer.listeners ++ [listener] }

/-- The compiler after the book of a bucket, if it has one. -/
def compileBucket (observer : WidthObserver) (compiler : Compiler) (bucket : String) : Compiler :=
  match observer.books.get? bucket with
  | some book => (compiler.compile book ("." ++ bucketClass bucket)).1
  | none => compiler

/-- What the listeners hear of a width in a bucket. -/
def notices (observer : WidthObserver) (bucket : String) : List Notice :=
  if observer.current = some bucket then []
  else observer.listeners.map fun listener => ⟨listener, bucketClass bucket⟩

def observe (observer : WidthObserver) (compiler : Compiler) (width : Nat) :
    WidthObserver × Compiler × Observation :=
  let bucket := bucketOf width
  ({ observer with current := some bucket }, observer.compileBucket compiler bucket,
    ⟨bucketClass bucket, observer.notices bucket⟩)

def currentClass? (observer : WidthObserver) : Option String := observer.current.map bucketClass

def described (observer : WidthObserver) : String :=
  Text.described "SizeObserver"
    [("books", Text.quotedList observer.books.keys),
     ("current", Text.optional (observer.current.map Text.quoted)),
     ("listeners", toString observer.listeners.length)]

end WidthObserver
end ThemedStyles
