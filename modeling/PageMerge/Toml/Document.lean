import PageMerge.Toml.Scalar
import PageMerge.Toml.Table

/-!
# TOML documents

A document is a sequence of lines: pairs of a key and a value, headers, comments and empty lines. A
value that is a list may go over several lines, a table in braces may not. Keys can be dotted.

## Main definitions

* `readKey`: a dotted key
* `readValue`: a value
* `read`: the members of the table that a document is
-/

namespace PageMerge.Toml

/-! ### Keys -/

/-- A character of a key without quotes. -/
def isKeyChar (c : Char) : Bool := c.isAlphanum || c == '-' || c == '_'

/-- Takes one part of a key. -/
def readKeyPart : Reader String := fun cs =>
  match cs with
  | '"' :: _ => readShortText cs
  | '\'' :: _ => readShortText cs
  | cs =>
    let part := cs.takeWhile isKeyChar
    if part.isEmpty then none else some (String.ofList part, cs.dropWhile isKeyChar)

/-- Takes the parts of a key with the points between them. Blanks may stand around every part. -/
def readKeyParts : (bound : Nat) → Reader (List String)
  | 0, _ => none
  | bound + 1, cs => do
    let (part, rest) ← readKeyPart (skipSpace cs)
    match skipSpace rest with
    | '.' :: rest => do
      let (parts, rest) ← readKeyParts bound rest
      some (part :: parts, rest)
    | rest => some ([part], rest)

/-- The number of parts, or of containers within each other, that is too large. -/
def depthLimit : Nat := 80

/-- Takes a dotted key, as the parts before the last one and the last one. -/
def readKey : Reader (List String × String) := fun cs => do
  let (parts, rest) ← readKeyParts depthLimit cs
  let last ← parts.getLast?
  if parts.length < depthLimit then some ((parts.dropLast, last), rest) else none

/-! ### Values -/

/-- The text without blanks, breaks and comments at its front. -/
def skipLines : (bound : Nat) → List Char → List Char
  | 0, cs => cs
  | bound + 1, cs =>
    let cs := skipSpace cs
    match skipComment cs with
    | [] => cs
    | rest =>
      match afterBreak? rest with
      | some rest => skipLines bound rest
      | none => cs

/-- Takes the items of a list up to its bracket. A comma may stand after the last item. -/
def readItems (item : Reader Value) : (bound : Nat) → Reader (List Value)
  | 0, _ => none
  | bound + 1, cs =>
    match skipLines cs.length cs with
    | ']' :: rest => some ([], rest)
    | cs => do
      let (first, rest) ← item cs
      match skipLines rest.length rest with
      | ',' :: rest => do
        let (items, rest) ← readItems item bound rest
        some (first :: items, rest)
      | ']' :: rest => some ([first], rest)
      | _ => none

/-- Takes a pair of a key and a value, and the blanks around the value. -/
def readPair (item : Reader Value) : Reader ((List String × String) × Value) := fun cs => do
  let (key, rest) ← readKey cs
  match rest with
  | '=' :: rest => do
    let (value, rest) ← item (skipSpace rest)
    some ((key, value), skipSpace rest)
  | _ => none

/-- Takes the pairs of a table up to its brace and adds them to the entries so far. -/
def readPairs (item : Reader Value) : (bound : Nat) → Entries → Reader Entries
  | 0, _, _ => none
  | bound + 1, entries, cs => do
    let (((path, last), value), rest) ← readPair item cs
    let entries ← insertDotted last value path entries
    match rest with
    | ',' :: rest => readPairs item bound entries rest
    | '}' :: rest => some (entries, rest)
    | _ => none

/-- Takes a table in braces, after the first brace. -/
def readBraces (item : Reader Value) : Reader Value := fun cs =>
  match skipSpace cs with
  | '}' :: rest => some (.table [], rest)
  | cs => do
    let (entries, rest) ← readPairs item (cs.length + 1) [] cs
    some (.table (finishMembers entries), rest)

/-- Takes a truth value, infinity or the value that is no number. -/
def readWord : Reader Value
  | 't' :: 'r' :: 'u' :: 'e' :: rest => some (.boolean true, rest)
  | 'f' :: 'a' :: 'l' :: 's' :: 'e' :: rest => some (.boolean false, rest)
  | cs => readSpecial cs

/-- Takes a value with at most `depth` containers within each other. -/
def readValue (depth : Nat) : Reader Value := fun cs =>
  match cs with
  | [] => none
  | c :: rest =>
    if c = '"' ∨ c = '\'' then (readText cs).map fun (text, rest) => (.text text, rest)
    else if c = '[' then
      match depth with
      | 0 => none
      | depth + 1 => do
        let (items, rest) ← readItems (readValue depth) (rest.length + 1) rest
        some (.array items, rest)
    else if c = '{' then
      match depth with
      | 0 => none
      | depth + 1 => readBraces (readValue depth) rest
    else if c.isDigit ∨ c = '+' ∨ c = '-' then readNumber cs
    else readWord cs

/-! ### Documents -/

/-- Takes a header after its first bracket, with its line. -/
def readHeader (draft : Draft) : Reader Draft
  | '[' :: rest => do
    let ((path, key), rest) ← readKey rest
    match rest with
    | ']' :: ']' :: rest => some (← draft.openItem path key, ← finishLine? rest)
    | _ => none
  | rest => do
    let ((path, key), rest) ← readKey rest
    match rest with
    | ']' :: rest => some (← draft.openTable path key, ← finishLine? rest)
    | _ => none

/-- Takes a line that is not empty and adds it to the document. -/
def readLine (draft : Draft) : Reader Draft := fun cs =>
  match cs with
  | '[' :: rest => readHeader draft rest
  | '#' :: _ => (finishLine? cs).map (draft, ·)
  | _ =>
    match afterBreak? cs with
    | some rest => some (draft, rest)
    | none => do
      let (((path, last), value), rest) ← readPair (readValue (depthLimit - 1)) cs
      some (← draft.addPair path last value, ← finishLine? rest)

/-- Adds the lines of a text to a document. -/
def readLines : (bound : Nat) → Draft → List Char → Option Draft
  | 0, _, _ => none
  | bound + 1, draft, cs =>
    match skipSpace cs with
    | [] => some draft
    | cs => do
      let (draft, rest) ← readLine draft cs
      readLines bound draft rest

/-- The members of the table that a document is, if the text is a document. A byte order mark at the
very start is left out. -/
def read (text : String) : Option (List (String × Value)) := do
  let cs := match text.toList with
    | '\ufeff' :: rest => rest
    | cs => cs
  let draft ← readLines (cs.length + 1) .empty cs
  some (finishMembers (← draft.close))

end PageMerge.Toml
