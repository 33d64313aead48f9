import ThemedStyles.Yaml.Token

namespace ThemedStyles
namespace Yaml

/-!
# Reading YAML texts

The node of a document is read off its tokens.  This reader knows lists and
mappings as blocks and as flows, scalars, and documents with their markers; a text
holds one document.

A node may be left out behind a dash, a question mark or a colon, and is a missing
value then.  A key without a colon has a missing value as well.  In brackets an
entry with a key is a mapping of its own; if the key is left out behind its question
mark, the mark that stands in its place is taken along.

The functions take fuel.  No call goes through more than four others before a token
is taken, so fuel of four times the number of tokens and a little more never runs
out.
-/

/-- Where a node stands, which decides how it may be written. -/
inductive Standing where
  /-- In brackets or braces, where no block may stand. -/
  | flow
  /-- Behind a dash, or alone in a document. -/
  | item
  /-- Behind a question mark or a colon.  The items of a list there may stand at
  the column of the mapping, in no block of their own. -/
  | entry
deriving DecidableEq

def comesNext (marks : List Mark) : List Token -> Bool
  | .mark mark :: _ => marks.contains mark
  | _ => false

mutual

def node? : (fuel : Nat) -> Standing -> List Token -> Option (Yaml × List Token)
  | 0, _, _ => none
  | fuel + 1, standing, tokens =>
      match tokens with
      | .scalar node :: rest => some (node, rest)
      | .mark .openBracket :: rest =>
          (flowItems? fuel rest).map fun (items, after) => (list items, after)
      | .mark .openBrace :: rest =>
          (flowEntries? fuel rest).map fun (entries, after) => (mapping entries, after)
      | .mark .openItems :: rest =>
          if standing = .flow then none
          else (blockItems? fuel rest).map fun (items, after) => (list items, after)
      | .mark .openEntries :: rest =>
          if standing = .flow then none
          else (blockEntries? fuel rest).map fun (entries, after) => (mapping entries, after)
      | .mark .dash :: _ =>
          if standing = .entry then
            (bareItems? fuel tokens).map fun (items, after) => (list items, after)
          else none
      | _ => none

/-- A node that is left out before one of these marks. -/
def nodeBefore? : (fuel : Nat) -> Standing -> (marks : List Mark) -> List Token ->
    Option (Yaml × List Token)
  | 0, _, _, _ => none
  | fuel + 1, standing, marks, tokens =>
      if comesNext marks tokens then some (missing, tokens) else node? fuel standing tokens

/-- A colon and what is behind it, both of which may be left out.  The value may be
left out before one of these marks. -/
def valueBefore? : (fuel : Nat) -> Standing -> (marks : List Mark) -> List Token ->
    Option (Yaml × List Token)
  | 0, _, _, _ => none
  | fuel + 1, standing, marks, tokens =>
      match tokens with
      | .mark .value :: rest => nodeBefore? fuel standing marks rest
      | _ => some (missing, tokens)

/-- An item of a flow.  An entry with a key is a mapping of its own. -/
def flowItem? : (fuel : Nat) -> List Token -> Option (Yaml × List Token)
  | 0, _ => none
  | fuel + 1, tokens =>
      match tokens with
      | .mark .key :: rest => do
          let (key, afterKey) ←
            if comesNext [.value, .comma, .closeBracket] rest then some (missing, rest.drop 1)
            else node? fuel .flow rest
          let (value, after) ← valueBefore? fuel .flow [.comma, .closeBracket] afterKey
          some (mapping [(key, value)], after)
      | _ => node? fuel .flow tokens

/-- The items of a flow behind its bracket, or behind a comma. -/
def flowItems? : (fuel : Nat) -> List Token -> Option (List Yaml × List Token)
  | 0, _ => none
  | fuel + 1, tokens =>
      match tokens with
      | .mark .closeBracket :: rest => some ([], rest)
      | _ => do
          let (item, next) ← flowItem? fuel tokens
          match next with
          | .mark .comma :: rest => do
              let (items, after) ← flowItems? fuel rest
              some (item :: items, after)
          | .mark .closeBracket :: rest => some ([item], rest)
          | _ => none

/-- An entry of a flow.  A node without a mark of a key is a key all the same, and
has no colon. -/
def flowEntry? : (fuel : Nat) -> List Token -> Option ((Yaml × Yaml) × List Token)
  | 0, _ => none
  | fuel + 1, tokens =>
      match tokens with
      | .mark .key :: rest => do
          let (key, afterKey) ← nodeBefore? fuel .flow [.value, .comma, .closeBrace] rest
          let (value, after) ← valueBefore? fuel .flow [.comma, .closeBrace] afterKey
          some ((key, value), after)
      | _ => (node? fuel .flow tokens).map fun (key, after) => ((key, missing), after)

/-- The entries of a flow behind its brace, or behind a comma. -/
def flowEntries? : (fuel : Nat) -> List Token -> Option (List (Yaml × Yaml) × List Token)
  | 0, _ => none
  | fuel + 1, tokens =>
      match tokens with
      | .mark .closeBrace :: rest => some ([], rest)
      | _ => do
          let (entry, next) ← flowEntry? fuel tokens
          match next with
          | .mark .comma :: rest => do
              let (entries, after) ← flowEntries? fuel rest
              some (entry :: entries, after)
          | .mark .closeBrace :: rest => some ([entry], rest)
          | _ => none

def blockItems? : (fuel : Nat) -> List Token -> Option (List Yaml × List Token)
  | 0, _ => none
  | fuel + 1, tokens =>
      match tokens with
      | .mark .closeBlock :: rest => some ([], rest)
      | .mark .dash :: rest => do
          let (item, next) ← nodeBefore? fuel .item [.dash, .closeBlock] rest
          let (items, after) ← blockItems? fuel next
          some (item :: items, after)
      | _ => none

/-- The items of a list that has no block of its own. -/
def bareItems? : (fuel : Nat) -> List Token -> Option (List Yaml × List Token)
  | 0, _ => none
  | fuel + 1, tokens =>
      match tokens with
      | .mark .dash :: rest => do
          let (item, next) ← nodeBefore? fuel .item [.dash, .key, .value, .closeBlock] rest
          let (items, after) ← bareItems? fuel next
          some (item :: items, after)
      | _ => some ([], tokens)

def blockEntries? : (fuel : Nat) -> List Token -> Option (List (Yaml × Yaml) × List Token)
  | 0, _ => none
  | fuel + 1, tokens =>
      match tokens with
      | .mark .closeBlock :: rest => some ([], rest)
      | .mark .key :: rest => do
          let (key, afterKey) ← nodeBefore? fuel .entry [.key, .value, .closeBlock] rest
          let (value, next) ← valueBefore? fuel .entry [.key, .value, .closeBlock] afterKey
          let (entries, after) ← blockEntries? fuel next
          some ((key, value) :: entries, after)
      | _ => none

end

/-! ## Documents -/

/-- The node of the first document, and the tokens behind it.  A document without
any content is a missing value. -/
def document? (tokens : List Token) : Option (Yaml × List Token) :=
  let fuel := 4 * tokens.length + 4
  match tokens with
  | [] => some (missing, [])
  | .mark .documentStart :: rest =>
      if rest.isEmpty || comesNext [.documentStart, .documentEnd] rest then some (missing, rest)
      else node? fuel .item rest
  | _ => node? fuel .item tokens

/-- Write every line end as a line feed.  Line and paragraph separators stay. -/
def withLineFeeds : List Char -> List Char
  | [] => []
  | '\r' :: '\n' :: rest => '\n' :: withLineFeeds rest
  | '\r' :: rest => '\n' :: withLineFeeds rest
  | '\u0085' :: rest => '\n' :: withLineFeeds rest
  | char :: rest => char :: withLineFeeds rest

/-- Controls other than tabs and line ends may not occur, and neither may the
two last codes of the basic plane. -/
def isAllowed (char : Char) : Bool :=
  let code := char.toNat
  char = '\t' || char = '\n' || char = '\r' || (0x20 ≤ code && code ≤ 0x7E) || code = 0x85 ||
    (0xA0 ≤ code && code ≤ 0xFFFD) || 0x10000 ≤ code

/-- The node of a text.  Only markers of its end may follow the document. -/
def read? (text : String) : Option Yaml := do
  let chars := text.toList
  if chars.all isAllowed then
    let tokens ← tokens? (withLineFeeds chars)
    let (node, rest) ← document? tokens
    if rest.all fun token => comesNext [.documentEnd] [token] then some node else none
  else none

end Yaml
end ThemedStyles
