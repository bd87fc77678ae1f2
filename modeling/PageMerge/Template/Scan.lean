import PageMerge.Template.Token

/-!
# Scanning template text

Splits a template text into tokens. A placeholder mark, a name and a placeholder mark are a
placeholder; an escape mark with a placeholder mark after it is a literal placeholder mark; any
other placeholder mark is stray. The scan goes on after a stray mark, so that all of them are found
at once, and fails if there is one.

## Main definitions

* `Scan`, `Scan.step`, `Scan.finish`: the scanner
* `strayAt`: line, column and surroundings of a stray mark
* `scan`: the tokens of a text, or the places of its stray marks
-/

namespace PageMerge.Template

/-! ### Stray marks -/

/-- Where a stray placeholder mark stands. -/
structure Stray where
  /-- The line, counted from one. -/
  line : Nat
  /-- The column, counted from one in characters. -/
  column : Nat
  /-- The text around the mark, with blanks for line breaks. -/
  context : String
  deriving DecidableEq, Repr

/-- The place of a stray mark as a message shows it. -/
def Stray.message (stray : Stray) : String :=
  s!"line {stray.line}, column {stray.column} near '{stray.context}'"

/-- The placeholder marks of a text that belong to no placeholder. -/
structure StrayMarks where
  placeholder : Char
  strays : List Stray
  deriving DecidableEq, Repr

/-- The wording of the error. -/
def StrayMarks.message (error : StrayMarks) : String :=
  let listed := String.intercalate "; " (error.strays.map Stray.message)
  s!"{error.strays.length} placeholder character(s) '{error.placeholder}' not belonging to a " ++
    s!"valid placeholder: {listed}"

/-- The number of characters shown on each side of a stray mark. -/
def contextRadius : Nat := 15

/-- A line break as a message shows it. -/
def flatten (c : Char) : Char := if c = '\n' ∨ c = '\r' then ' ' else c

/-- The place of the character that has `offset` characters before it. -/
def strayAt (text : List Char) (offset : Nat) : Stray :=
  let before := text.take offset
  { line := before.count '\n' + 1
    column := (before.reverse.takeWhile (· ≠ '\n')).length + 1
    context := String.ofList <|
      ((before.reverse.take contextRadius).reverse ++
        (text.drop offset).take (contextRadius + 1)).map flatten }

/-! ### The scanner -/

/-- What the scanner is in the middle of. -/
inductive ScanMode where
  /-- In literal text. -/
  | inLiteral
  /-- After an escape mark. -/
  | sawEscape
  /-- After the placeholder mark at an offset and a name so far, its last character first. -/
  | inName (openedAt : Nat) (name : List Char)
  deriving DecidableEq, Repr

/-- The scanner in the middle of a text. -/
structure Scan where
  state : ScanMode
  /-- The tokens so far, the last one first. -/
  tokens : Tokens
  /-- The offsets of the stray marks so far, the last one first. -/
  strays : List Nat
  /-- The number of characters passed. -/
  offset : Nat
  deriving DecidableEq, Repr

namespace Scan

/-- The scanner at the start of a text. -/
def start : Scan := ⟨.inLiteral, [], [], 0⟩

/-- Adds a character to the literal text at the end of the tokens. -/
def addChar (tokens : Tokens) (c : Char) : Tokens :=
  match tokens with
  | .literal text :: rest => .literal (text.push c) :: rest
  | tokens => .literal (String.singleton c) :: tokens

/-- Adds characters to the literal text at the end of the tokens. -/
def addChars (tokens : Tokens) (cs : List Char) : Tokens := cs.foldl addChar tokens

/-- The scanner in literal text meets a character. -/
def literalStep (marks : Marks) (scan : Scan) (c : Char) : Scan :=
  if c = marks.escape then { scan with state := .sawEscape }
  else if c = marks.placeholder then { scan with state := .inName scan.offset [] }
  else { scan with state := .inLiteral, tokens := addChar scan.tokens c }

/-- The scanner gives up a name: its opening mark is stray, and mark and name are literal text. -/
def abandon (marks : Marks) (scan : Scan) (openedAt : Nat) (name : List Char) : Scan :=
  { scan with
    state := .inLiteral
    tokens := addChars scan.tokens (marks.placeholder :: name.reverse)
    strays := openedAt :: scan.strays }

/-- The scanner meets a character; what it does not take is met again as literal text. -/
def meet (marks : Marks) (scan : Scan) (c : Char) : Scan :=
  match scan.state with
  | .inLiteral => scan.literalStep marks c
  | .sawEscape =>
    if c = marks.placeholder then
      { scan with state := .inLiteral, tokens := addChar scan.tokens c }
    else
      literalStep marks
        { scan with state := .inLiteral, tokens := addChar scan.tokens marks.escape } c
  | .inName openedAt name =>
    if c = marks.placeholder ∧ name ≠ [] then
      { scan with
        state := .inLiteral
        tokens := .placeholder (String.ofList name.reverse) :: scan.tokens }
    else if isNameChar c then { scan with state := .inName openedAt (c :: name) }
    else (scan.abandon marks openedAt name).literalStep marks c

/-- The scanner takes the next character of the text. -/
def step (marks : Marks) (scan : Scan) (c : Char) : Scan :=
  let met := scan.meet marks c
  { met with offset := scan.offset + 1 }

/-- The scanner at the end of the text: an escape mark is literal, an open name is given up. -/
def finish (marks : Marks) (scan : Scan) : Scan :=
  match scan.state with
  | .inLiteral => scan
  | .sawEscape => { scan with state := .inLiteral, tokens := addChar scan.tokens marks.escape }
  | .inName openedAt name => scan.abandon marks openedAt name

/-- The scanner after a whole text. -/
def run (marks : Marks) (text : List Char) : Scan :=
  (text.foldl (step marks) start).finish marks

end Scan

/-- The tokens of a text, or the places of its stray marks. -/
def scan (marks : Marks) (text : String) : Except StrayMarks Tokens :=
  let chars := text.toList
  let done := Scan.run marks chars
  match done.strays with
  | [] => .ok done.tokens.reverse
  | strays => .error ⟨marks.placeholder, strays.reverse.map (strayAt chars)⟩

end PageMerge.Template
