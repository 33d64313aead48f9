import ThemedStyles.Yaml.Scalar

namespace ThemedStyles
namespace Yaml

/-!
# Tokens of a YAML text

A text is cut into scalars and marks.  The brackets and braces of a flow stand in
the text, while a block is opened and closed by columns: it opens at an entry
further right than the block around it, and closes before anything further left.

A key without a question mark is known only at its colon.  So the place where one
could have begun is remembered, one place for each depth of flows, and the mark of
the key is put in front of it afterwards.  Such a key stands on one line with its
colon and within reach.  A closing bracket, a comma or another key makes the place
void, which is an error where only a key may stand.

Directives, anchors, aliases, tags and block scalars are refused.
-/

/-- A token that is no scalar. -/
inductive Mark where
  | documentStart
  | documentEnd
  | openBracket
  | closeBracket
  | openBrace
  | closeBrace
  | comma
  | openItems
  | openEntries
  | closeBlock
  | dash
  | key
  | value
deriving DecidableEq

/-- A mark, or a scalar as the node that it is. -/
inductive Token where
  | mark (mark : Mark)
  | scalar (node : Yaml)

/-! ## Keys -/

/-- The greatest distance of a key from its colon, in bytes of UTF-8. -/
def keyReach : Nat := 1024

/-- The number of bytes between two places, the first of which comes first. -/
def byteDistance (start stop : Cursor) : Nat :=
  (String.ofList (start.rest.take (start.rest.length - stop.rest.length))).utf8ByteSize

/-- May what starts here be a key of the colon over there? -/
def isKey (start colon : Cursor) : Bool :=
  start.line == colon.line && decide (byteDistance start colon ≤ keyReach)

/-- A place where a key could have begun. -/
structure KeyPlace where
  start : Cursor
  /-- The number of tokens before it. -/
  count : Nat
  /-- Is anything but a key an error here?  It is at the column of a block. -/
  required : Bool

/-- What has been read of a text, and the place where reading goes on. -/
structure Scan where
  cursor : Cursor
  /-- The tokens, last first. -/
  tokens : List Token
  count : Nat
  /-- The columns of the open blocks, innermost first. -/
  columns : List Nat
  /-- The place of a possible key within the innermost flow. -/
  key : Option KeyPlace
  /-- The same for everything around it, innermost first. -/
  outer : List (Option KeyPlace)

namespace Scan

def isFlow (scan : Scan) : Bool := !scan.outer.isEmpty

def push (scan : Scan) (token : Token) : Scan :=
  { scan with tokens := token :: scan.tokens, count := scan.count + 1 }

def insert (scan : Scan) (place : Nat) (mark : Mark) : Scan :=
  let later := scan.count - place
  { scan with
    tokens := scan.tokens.take later ++ .mark mark :: scan.tokens.drop later
    count := scan.count + 1 }

def pass (scan : Scan) (mark : Mark) (fresh : Bool) : Scan :=
  { scan.push (.mark mark) with cursor := scan.cursor.step fresh }

/-! ### Blocks -/

/-- Open a block at a column behind so many tokens, unless the innermost block
is there already.  No block opens in a flow. -/
def openBlock (scan : Scan) (column place : Nat) (mark : Mark) : Scan :=
  if scan.isFlow || scan.columns.head?.any fun inner => column ≤ inner then scan
  else { scan.insert place mark with columns := column :: scan.columns }

/-- Close the innermost blocks with these columns.  No block closes in a flow. -/
def closeBlocks (scan : Scan) (closes : Nat -> Bool) : Scan :=
  if scan.isFlow then scan
  else
    (scan.columns.takeWhile closes).foldl
      (fun current _ => current.push (.mark .closeBlock))
      { scan with columns := scan.columns.dropWhile closes }

/-- The least column of a further line of a plain scalar. -/
def least (scan : Scan) : Nat :=
  match scan.columns with
  | [] => 0
  | column :: _ => column + 1

/-! ### Places of keys -/

def dropKey? (scan : Scan) : Option Scan :=
  if scan.key.any KeyPlace.required then none else some { scan with key := none }

/-- Remember this place, if a key may begin here. -/
def noteKey? (scan : Scan) : Option Scan :=
  if scan.cursor.fresh then
    let required := !scan.isFlow && scan.columns.head? == some scan.cursor.column
    scan.dropKey?.map fun dropped =>
      { dropped with key := some ⟨scan.cursor, scan.count, required⟩ }
  else some scan

/-! ### One token -/

def openFlow? (scan : Scan) (mark : Mark) : Option Scan :=
  scan.noteKey?.map fun noted =>
    { noted.pass mark true with key := none, outer := noted.key :: noted.outer }

/-- A closing bracket or brace.  Outside of any flow it closes nothing. -/
def closeFlow? (scan : Scan) (mark : Mark) : Option Scan :=
  scan.dropKey?.map fun dropped =>
    { dropped.pass mark false with key := dropped.outer.head?.join, outer := dropped.outer.drop 1 }

def comma? (scan : Scan) : Option Scan := scan.dropKey?.map fun dropped => dropped.pass .comma true

/-- The cursor is where an entry may begin, and the block of the entry is open. -/
def beginEntry? (scan : Scan) (block : Mark) : Option Scan :=
  if scan.isFlow || scan.cursor.fresh then
    some (scan.openBlock scan.cursor.column scan.count block)
  else none

def dash? (scan : Scan) : Option Scan := do
  let opened ← scan.beginEntry? .openItems
  let dropped ← opened.dropKey?
  some (dropped.pass .dash true)

def question? (scan : Scan) : Option Scan := do
  let opened ← scan.beginEntry? .openEntries
  let dropped ← opened.dropKey?
  some (dropped.pass .key (!scan.isFlow))

/-- A colon whose key, if there is one, has a question mark. -/
def bareColon? (scan : Scan) : Option Scan := do
  let opened ← scan.beginEntry? .openEntries
  let dropped ← opened.dropKey?
  some (dropped.pass .value (!scan.isFlow))

def colon? (scan : Scan) : Option Scan :=
  match scan.key with
  | none => scan.bareColon?
  | some place =>
      if isKey place.start scan.cursor then
        let keyed := (scan.insert place.count .key).openBlock place.start.column place.count
          .openEntries
        some ({ keyed with key := none }.pass .value false)
      else scan.bareColon?

def scalar? (scan : Scan) : Option Scan := do
  let noted ← scan.noteKey?
  let (node, after) ← scalarAt? noted.isFlow noted.least noted.cursor
  some { noted.push (.scalar node) with cursor := after }

/-- The marker of the start or the end of a document, which closes every block. -/
def marker? (scan : Scan) (mark : Mark) : Option Scan :=
  (scan.closeBlocks fun _ => true).dropKey?.map fun dropped =>
    { dropped.push (.mark mark) with
      cursor := ⟨scan.cursor.rest.drop 3, scan.cursor.line, scan.cursor.column + 3, false⟩ }

/-- Skip to the next token and close the blocks that end before it. -/
def skip (scan : Scan) : Scan :=
  let cursor := scan.cursor.skip scan.isFlow
  { scan with cursor := cursor }.closeBlocks fun column => cursor.column < column

def next? (scan : Scan) : Option Scan :=
  let cursor := scan.cursor
  if cursor.atMarker '-' then scan.marker? .documentStart
  else if cursor.atMarker '.' then scan.marker? .documentEnd
  else if cursor.atIndicator false '-' then scan.dash?
  else if cursor.atIndicator scan.isFlow '?' then scan.question?
  else if cursor.atIndicator scan.isFlow ':' then scan.colon?
  else match cursor.rest with
    | '[' :: _ => scan.openFlow? .openBracket
    | '\x7b' :: _ => scan.openFlow? .openBrace
    | ']' :: _ => scan.closeFlow? .closeBracket
    | '\x7d' :: _ => scan.closeFlow? .closeBrace
    | ',' :: _ => scan.comma?
    | _ => scan.scalar?

/-- Read to the end.  Every token takes a character, so fuel beyond the number of
characters never runs out. -/
def finish? : (fuel : Nat) -> Scan -> Option Scan
  | 0, _ => none
  | fuel + 1, scan =>
      let skipped := scan.skip
      if skipped.cursor.rest.isEmpty then (skipped.closeBlocks fun _ => true).dropKey?
      else skipped.next? >>= finish? fuel

end Scan

/-- The tokens of a text with plain line ends. -/
def tokens? (chars : List Char) : Option (List Token) :=
  (Scan.finish? (chars.length + 1) ⟨⟨chars, 0, 0, true⟩, [], 0, [], none, []⟩).map fun scan =>
    scan.tokens.reverse

end Yaml
end ThemedStyles
