import ThemedStyles.Json.Reader
import ThemedStyles.Yaml

namespace ThemedStyles
namespace Yaml

/-!
# Places and scalars in a YAML text

Lines and columns carry meaning, so reading keeps a cursor.  The cursor is
fresh while a key or an entry of a block may begin: on a new line of a block, or
behind a mark that opens an entry.  In a block a tab is never skipped there, since
it is no indentation.

A scalar may run over several lines.  Blanks around a line end are dropped; a
single line end is a space, and of several the first is dropped.
-/

/-- A place in a text: what is left of it, and where the next character is. -/
structure Cursor where
  rest : List Char
  line : Nat
  column : Nat
  /-- May a key or an entry of a block begin here? -/
  fresh : Bool

def isGap (char : Char) : Bool := char = ' ' || char = '\t'

def isBreak (char : Char) : Bool := char = '\n' || char = '\u2028' || char = '\u2029'

/-- Nothing, a blank, or the end of a line follows. -/
def endsWord : List Char -> Bool
  | [] => true
  | char :: _ => isGap char || isBreak char

namespace Cursor

def step (cursor : Cursor) (fresh : Bool) : Cursor :=
  { cursor with rest := cursor.rest.drop 1, column := cursor.column + 1, fresh := fresh }

/-- The cursor before the next character that is neither blank nor part of a
comment.  In a flow a tab is a blank everywhere.  A byte order mark may begin any
line, and it fills a column. -/
def skipFrom (flow : Bool) : (comment : Bool) -> List Char -> (line column : Nat) ->
    (fresh : Bool) -> Cursor
  | _, [], line, column, fresh => ⟨[], line, column, fresh⟩
  | comment, char :: rest, line, column, fresh =>
      if isBreak char then skipFrom flow false rest (line + 1) 0 (fresh || !flow)
      else if comment || char = ' ' || (char = '\t' && (flow || !fresh)) ||
          (char = '\ufeff' && column = 0) then
        skipFrom flow comment rest line (column + 1) fresh
      else if char = '#' then skipFrom flow true rest line (column + 1) fresh
      else ⟨char :: rest, line, column, fresh⟩

def skip (cursor : Cursor) (flow : Bool) : Cursor :=
  skipFrom flow false cursor.rest cursor.line cursor.column cursor.fresh

/-- Is there a document marker, three of this character at the start of a line? -/
def atMarker (cursor : Cursor) (mark : Char) : Bool :=
  cursor.column == 0 && [mark, mark, mark].isPrefixOf cursor.rest &&
    endsWord (cursor.rest.drop 3)

/-- Does the document end here? -/
def atEnd (cursor : Cursor) : Bool :=
  cursor.rest.isEmpty || cursor.atMarker '-' || cursor.atMarker '.'

/-- Is there an indicator, which a word in a block could begin with? -/
def atIndicator (cursor : Cursor) (flow : Bool) (indicator : Char) : Bool :=
  match cursor.rest with
  | char :: rest => char == indicator && (flow || endsWord rest)
  | [] => false

end Cursor

/-! ## Folding -/

/-- Blanks between two pieces of a scalar. -/
inductive Gap where
  | none
  /-- Blanks within a line, last first. -/
  | blanks (chars : List Char)
  /-- A line end, which may have been escaped, and further ones, last first. -/
  | breaks (first : Option Char) (more : List Char)

namespace Gap

def addBlank (char : Char) : Gap -> Gap
  | none => blanks [char]
  | blanks chars => blanks (char :: chars)
  | breaks first more => breaks first more

def addBreak (char : Char) : Gap -> Gap
  | breaks first more => breaks first (char :: more)
  | _ => breaks (some char) []

def isBroken : Gap -> Bool
  | breaks _ _ => true
  | _ => false

def isOpen : Gap -> Bool
  | none => false
  | _ => true

/-- The characters that a gap stands for. -/
def folded : Gap -> List Char
  | none => []
  | blanks chars => chars.reverse
  | breaks (some '\n') [] => [' ']
  | breaks (some '\n') more => more.reverse
  | breaks first more => first.toList ++ more.reverse

/-- The characters of a scalar, last first, with a gap behind them. -/
def after (gap : Gap) (taken : List Char) : List Char := gap.folded.reverse ++ taken

end Gap

/-! ## Plain scalars -/

/-- The brackets and the comma, which structure a flow. -/
def isFlowMark (char : Char) : Bool := [',', '[', ']', '\x7b', '\x7d'].contains char

/-- Characters that begin no plain scalar. -/
def isReserved (char : Char) : Bool :=
  isFlowMark char || ['#', '&', '*', '!', '|', '>', '\'', '"', '%', '@', '\x60'].contains char

def beginsPlain (flow : Bool) : List Char -> Bool
  | [] => false
  | char :: rest =>
      if char = '-' then !endsWord rest
      else if char = '?' ∨ char = ':' then !flow && !endsWord rest
      else !isReserved char && !endsWord [char]

/-- Does a plain scalar end before this character? -/
def endsPlain (flow : Bool) (char : Char) (rest : List Char) : Bool :=
  (char == ':' && endsWord rest) || (flow && isFlowMark char)

/-- A colon that touches a flow mark is an error. -/
def isTouching (flow : Bool) (char : Char) (rest : List Char) : Bool :=
  flow && char == ':' && rest.head?.any fun next => isFlowMark next || next == '?'

/-- The rest of a plain scalar.  Outside of a flow its further lines must be
indented to the column `least`.  `taken` is what has been read, last first. -/
def plainFrom (flow : Bool) (least : Nat) (taken : List Char) (gap : Gap) :
    List Char -> (line column : Nat) -> Option (List Char × Cursor)
  | [], line, column => some (taken.reverse, ⟨[], line, column, gap.isBroken⟩)
  | char :: rest, line, column =>
      let stop := some (taken.reverse, ⟨char :: rest, line, column, gap.isBroken⟩)
      if isBreak char then plainFrom flow least taken (gap.addBreak char) rest (line + 1) 0
      else if isGap char then
        if gap.isBroken && column < least && char = '\t' then none
        else plainFrom flow least taken (gap.addBlank char) rest line (column + 1)
      else if gap.isBroken &&
          ((!flow && column < least) || Cursor.atEnd ⟨char :: rest, line, column, true⟩) then stop
      else if gap.isOpen && char = '#' then stop
      else if isTouching flow char rest then none
      else if endsPlain flow char rest then stop
      else plainFrom flow least (char :: gap.after taken) .none rest line (column + 1)

/-! ## Quoted scalars -/

def escapedChar? : Char -> Option Char
  | '0' => some '\x00'
  | 'a' => some '\x07'
  | 'b' => some '\x08'
  | 't' => some '\t'
  | '\t' => some '\t'
  | 'n' => some '\n'
  | 'v' => some '\x0b'
  | 'f' => some '\x0c'
  | 'r' => some '\r'
  | 'e' => some '\x1b'
  | ' ' => some ' '
  | '"' => some '"'
  | '/' => some '/'
  | '\\' => some '\\'
  | 'N' => some '\u0085'
  | '_' => some '\u00a0'
  | 'L' => some '\u2028'
  | 'P' => some '\u2029'
  | _ => none

/-- The number of hexadecimal digits behind an escape letter, none for the
escapes of one letter. -/
def escapeWidth : Char -> Nat
  | 'x' => 2
  | 'u' => 4
  | 'U' => 8
  | _ => 0

/-- The character with a code, if there is one. -/
def charOfCode? (code : Nat) : Option Char :=
  if code.isValidChar then some (Char.ofNat code) else none

/-- The character of an escape behind its backslash, and the number of
characters that the escape takes there. -/
def escapeAt? : List Char -> Option (Char × Nat)
  | [] => none
  | letter :: rest =>
      let width := escapeWidth letter
      if width = 0 then (escapedChar? letter).map fun char => (char, 1)
      else if rest.length < width then none
      else do
        let code ← Json.hexNumber? (rest.take width)
        let char ← charOfCode? code
        some (char, width + 1)

/-- The rest of a scalar between these quotes.  Escapes count only between
double quotes; between single ones a quote is doubled.  `pending` is the number
of characters that an escape has still to take. -/
def quotedFrom (quote : Char) (taken : List Char) (gap : Gap) :
    (pending : Nat) -> List Char -> (line column : Nat) -> Option (List Char × Cursor)
  | _, [], _, _ => none
  | pending + 1, _ :: rest, line, column =>
      quotedFrom quote taken gap pending rest line (column + 1)
  | 0, char :: rest, line, column =>
      if isBreak char then quotedFrom quote taken (gap.addBreak char) 0 rest (line + 1) 0
      else if isGap char then quotedFrom quote taken (gap.addBlank char) 0 rest line (column + 1)
      else if gap.isBroken && Cursor.atEnd ⟨char :: rest, line, column, true⟩ then none
      else if char = quote then
        if quote = '\'' && rest.head? == some '\'' then
          quotedFrom quote (quote :: gap.after taken) .none 1 rest line (column + 1)
        else some ((gap.after taken).reverse, ⟨rest, line, column + 1, false⟩)
      else if quote = '"' && char = '\\' then
        match rest with
        | next :: tail =>
            if isBreak next then
              quotedFrom quote (gap.after taken) (.breaks none []) 0 tail (line + 1) 0
            else match escapeAt? (next :: tail) with
              | some (escaped, width) =>
                  quotedFrom quote (escaped :: gap.after taken) .none width (next :: tail) line
                    (column + 1)
              | none => none
        | [] => none
      else quotedFrom quote (char :: gap.after taken) .none 0 rest line (column + 1)

def scalarAt? (flow : Bool) (least : Nat) (start : Cursor) : Option (Yaml × Cursor) :=
  match start.rest with
  | '\'' :: rest =>
      (quotedFrom '\'' [] .none 0 rest start.line (start.column + 1)).map
        fun (text, after) => (quoted (String.ofList text), after)
  | '"' :: rest =>
      (quotedFrom '"' [] .none 0 rest start.line (start.column + 1)).map
        fun (text, after) => (quoted (String.ofList text), after)
  | chars =>
      if beginsPlain flow chars then
        (plainFrom flow least [] .none chars start.line start.column).map
          fun (text, after) => (plain (String.ofList text), after)
      else none

end Yaml
end ThemedStyles
