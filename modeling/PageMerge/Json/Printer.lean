import PageMerge.Json.Value

/-!
# Writing JSON

A value as JSON text, on one line or with every item and member on a line of its own, two spaces
deeper than its container. Inside a text the quote, the backslash and the characters below `U+0020`
are written with a backslash; every other character stands for itself.

## Main definitions

* `Value.compact`: the value on one line
* `Value.pretty`: the value with one item or member to a line
-/

namespace PageMerge.Json

/-- One hexadecimal digit. -/
def hexDigit (n : Nat) : Char := (Nat.toDigits 16 n).headD '0'

/-- A character inside a JSON text. -/
def escapedChar (c : Char) : List Char :=
  match c with
  | '"' => ['\\', '"']
  | '\\' => ['\\', '\\']
  | '\x08' => ['\\', 'b']
  | '\x0c' => ['\\', 'f']
  | '\n' => ['\\', 'n']
  | '\r' => ['\\', 'r']
  | '\t' => ['\\', 't']
  | c =>
    if c.toNat < 0x20 then ['\\', 'u', '0', '0', hexDigit (c.toNat / 16), hexDigit (c.toNat % 16)]
    else [c]

/-- A text between quotes. -/
def quotedText (s : String) : List Char := '"' :: (s.toList.flatMap escapedChar ++ ['"'])

/-- Real numbers stand without an exponent while their leading digit is at most five places behind
the point or fifteen before it, and a tie goes to the even digit. -/
def realLayout : Decimal.Layout := ⟨.toEven, -5, 16⟩

/-- A number; what is not finite has no number in JSON and is written as null. -/
def numberText : Number → List Char
  | .integer n => (toString n).toList
  | .real .nan => "null".toList
  | .real (.infinite _) => "null".toList
  | .real x => (realLayout.render x).toList

/-- A value that holds no other. -/
def boolText : Bool → List Char
  | true => "true".toList
  | false => "false".toList

namespace Value

mutual

/-- The characters of a value on one line. -/
def compactChars : Value → List Char
  | .null => "null".toList
  | .bool b => boolText b
  | .number n => numberText n
  | .text s => quotedText s
  | .array items => '[' :: (compactItems items ++ [']'])
  | .object members => '{' :: (compactMembers members ++ ['}'])

/-- Items with commas between them. -/
def compactItems : List Value → List Char
  | [] => []
  | [item] => compactChars item
  | item :: rest => compactChars item ++ ',' :: compactItems rest

/-- Members with commas between them. -/
def compactMembers : List (String × Value) → List Char
  | [] => []
  | [(name, value)] => quotedText name ++ ':' :: compactChars value
  | (name, value) :: rest =>
    quotedText name ++ ':' :: (compactChars value ++ ',' :: compactMembers rest)

end

/-- The value on one line. -/
def compact (value : Value) : String := String.ofList value.compactChars

/-- The start of a line at a depth. -/
def newLine (depth : Nat) : List Char := '\n' :: List.replicate (2 * depth) ' '

mutual

/-- The characters of a value whose container stands at the given depth. -/
def prettyChars (depth : Nat) : Value → List Char
  | .null => "null".toList
  | .bool b => boolText b
  | .number n => numberText n
  | .text s => quotedText s
  | .array [] => ['[', ']']
  | .array (item :: rest) =>
    '[' :: (newLine (depth + 1) ++ prettyChars (depth + 1) item ++ prettyItems (depth + 1) rest ++
      newLine depth ++ [']'])
  | .object [] => ['{', '}']
  | .object ((name, value) :: rest) =>
    '{' :: (newLine (depth + 1) ++ quotedText name ++ ':' :: ' ' :: prettyChars (depth + 1) value ++
      prettyMembers (depth + 1) rest ++ newLine depth ++ ['}'])

/-- Items after the first one, each after a comma and on a line of its own. -/
def prettyItems (depth : Nat) : List Value → List Char
  | [] => []
  | item :: rest => ',' :: (newLine depth ++ prettyChars depth item ++ prettyItems depth rest)

/-- Members after the first one, each after a comma and on a line of its own. -/
def prettyMembers (depth : Nat) : List (String × Value) → List Char
  | [] => []
  | (name, value) :: rest =>
    ',' :: (newLine depth ++ quotedText name ++ ':' :: ' ' :: prettyChars depth value ++
      prettyMembers depth rest)

end

/-- The value with one item or member to a line. -/
def pretty (value : Value) : String := String.ofList (value.prettyChars 0)

end Value

end PageMerge.Json
