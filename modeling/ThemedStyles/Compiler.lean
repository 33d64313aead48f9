import ThemedStyles.ClassTable
import ThemedStyles.Rules.Writing

namespace ThemedStyles

/-!
# Compiling style books

A compiler turns books into stylesheets.  Every top-level entry with a body is
converted to a selector under the scope; unless that selector is compiled
already, its rules are written, the selector is marked and the key registers
its class.  All new rules of one book make one stylesheet, and a book without
new rules makes none, so compiling a book again changes nothing.
-/

/-- The state of a compiler.  Stylesheets are listed oldest first and are never
changed once they are there. -/
structure Compiler where
  properties : PropertySet
  classes : ClassTable
  sheets : List String

/-- What one compilation has done so far. -/
structure Batch where
  css : String
  fresh : List String
  classes : ClassTable

namespace Batch

/-- The rules of a body under its selector, as text. -/
def bodyCss (properties : PropertySet) (selector : String) (body : Book) : String :=
  (Rules.flatten properties [] selector body).css selector

/-- Compile one top-level entry.  An entry without a body is passed over. -/
def add (properties : PropertySet) (scope : String) (batch : Batch) (entry : String × Value) :
    Batch :=
  match entry.2 with
  | .book body =>
      let selector := Key.selector entry.1 scope
      if batch.classes.isCompiled selector then batch
      else
        { css := batch.css ++ bodyCss properties selector body
          fresh := batch.fresh ++ [selector]
          classes := (batch.classes.mark selector).registerKey entry.1 }
  | _ => batch

end Batch

namespace Compiler

def new (properties : PropertySet) : Compiler := ⟨properties, ClassTable.empty, []⟩

def inject (compiler : Compiler) (css : String) : Compiler :=
  { compiler with sheets := compiler.sheets ++ [css] }

/-- The work on a book under a scope, before its stylesheet is appended. -/
def batch (compiler : Compiler) (book : Book) (scope : String) : Batch :=
  book.foldl (Batch.add compiler.properties scope) ⟨"", [], compiler.classes⟩

/-- Compile a book under a scope.  The answer lists the selectors that were
compiled by this call. -/
def compile (compiler : Compiler) (book : Book) (scope : String) : Compiler × List String :=
  let done := compiler.batch book scope
  let marked := { compiler with classes := done.classes }
  (if done.css.isEmpty then marked else marked.inject done.css, done.fresh)

/-- Compile books under their scopes, one stylesheet for each. -/
def compileBag (compiler : Compiler) (bag : Entries Book) : Compiler :=
  bag.foldl (fun state entry => (state.compile entry.2 entry.1).1) compiler

/-- Forget selectors, and count those that had been compiled.  Earlier
stylesheets stay; the next ones come later and so take precedence. -/
def forget (compiler : Compiler) (selectors : List String) : Compiler × Nat :=
  let (classes, count) := compiler.classes.forget selectors
  ({ compiler with classes := classes }, count)

def text (compiler : Compiler) : String := String.join compiler.sheets

end Compiler
end ThemedStyles
