import PageMerge.Json.Value
import PageMerge.Text.Utf8

/-!
# Reading JSON

Reads a JSON value from bytes. A problem is reported at a line and a column counted in bytes, where
the reader stood: most problems are those of the byte that comes next, the others those of the byte
that was just taken. Containers may be nested 127 deep.

A number without a point and an exponent is an integer as far as 64 bits go. Of any other number,
the digits that fit 64 bits are multiplied by the power of ten, as doubles.

## Main definitions

* `Problem`, `Fault`: what is wrong, and where
* `readValue`: the value at the start of the bytes, and the bytes after it
* `read`: the value that the bytes are
-/

namespace PageMerge.Json

open PageMerge.Text (Bytes)

/-- What can be wrong with a JSON text. -/
inductive Problem where
  | endInValue
  | endInList
  | endInObject
  | endInText
  | expectedColon
  | expectedCommaInList
  | expectedCommaInObject
  | expectedWord
  | expectedValue
  | invalidEscape
  | invalidNumber
  | numberOutOfRange
  | controlCharacter
  | nameNotText
  | loneSurrogate
  | trailingComma
  | trailingCharacters
  | endOfEscape
  | tooDeep
  deriving DecidableEq, Repr

/-- The wording of a problem. -/
def Problem.message : Problem → String
  | .endInValue => "EOF while parsing a value"
  | .endInList => "EOF while parsing a list"
  | .endInObject => "EOF while parsing an object"
  | .endInText => "EOF while parsing a string"
  | .expectedColon => "expected `:`"
  | .expectedCommaInList => "expected `,` or `]`"
  | .expectedCommaInObject => "expected `,` or `\x7d`"
  | .expectedWord => "expected ident"
  | .expectedValue => "expected value"
  | .invalidEscape => "invalid escape"
  | .invalidNumber => "invalid number"
  | .numberOutOfRange => "number out of range"
  | .controlCharacter => "control character (\\u0000-\\u001F) found while parsing a string"
  | .nameNotText => "key must be a string"
  | .loneSurrogate => "lone leading surrogate in hex escape"
  | .trailingComma => "trailing comma"
  | .trailingCharacters => "trailing characters"
  | .endOfEscape => "unexpected end of hex escape"
  | .tooDeep => "recursion limit exceeded"

/-- A problem and the number of bytes that were left where it is reported. -/
structure Stop where
  problem : Problem
  left : Nat

/-- What a reader of `α` does with bytes: it takes some and leaves the others, or it stops. -/
abbrev Reader (α : Type) := Bytes → Except Stop (α × Bytes)

/-- Stops at the byte that was just taken. -/
def stopHere (problem : Problem) (rest : Bytes) : Except Stop α :=
  .error ⟨problem, rest.length⟩

/-- Stops at the byte that comes next. -/
def stopNext (problem : Problem) (rest : Bytes) : Except Stop α :=
  .error ⟨problem, rest.length - 1⟩

/-- A blank between the parts of a JSON text. -/
def isSpace (b : UInt8) : Bool := b == 0x20 || b == 0x0A || b == 0x09 || b == 0x0D

/-- The bytes without the blanks at their start. -/
def skipSpace (bs : Bytes) : Bytes := bs.dropWhile isSpace

/-- Takes the bytes of a word, one after the other. -/
def readWord : Bytes → Reader Unit
  | [], rest => .ok ((), rest)
  | _ :: _, [] => stopHere .endInValue []
  | w :: word, b :: rest =>
    if b = w then readWord word rest else stopHere .expectedWord rest

/-! ### Texts -/

/-- The value of a hexadecimal digit. -/
def hexValue? (b : UInt8) : Option Nat :=
  if 0x30 ≤ b ∧ b ≤ 0x39 then some (b.toNat - 0x30)
  else if 0x41 ≤ b ∧ b ≤ 0x46 then some (b.toNat - 0x37)
  else if 0x61 ≤ b ∧ b ≤ 0x66 then some (b.toNat - 0x57)
  else none

/-- Takes four hexadecimal digits. -/
def readHex : Reader Nat
  | a :: b :: c :: d :: rest =>
    match hexValue? a, hexValue? b, hexValue? c, hexValue? d with
    | some a, some b, some c, some d => .ok (((a * 16 + b) * 16 + c) * 16 + d, rest)
    | _, _, _, _ => stopHere .invalidEscape rest
  | _ => stopHere .endInText []

/-- Takes the second half of a character that is written as two surrogates. -/
def readLowSurrogate (high : Nat) : Reader Char
  | [] => stopHere .endInText []
  | 0x5C :: [] => stopHere .endInText []
  | 0x5C :: 0x75 :: rest => do
    let (low, rest) ← readHex rest
    if low < 0xDC00 ∨ 0xDFFF < low then stopHere .loneSurrogate rest
    else .ok (Char.ofNat (0x10000 + (high - 0xD800) * 0x400 + (low - 0xDC00)), rest)
  | 0x5C :: _ :: rest => stopHere .endOfEscape rest
  | _ :: rest => stopHere .endOfEscape rest

/-- Takes the character that is written after a backslash. -/
def readEscape : Reader Char
  | [] => stopHere .endInText []
  | b :: rest =>
    match b with
    | 0x22 => .ok ('"', rest)
    | 0x5C => .ok ('\\', rest)
    | 0x2F => .ok ('/', rest)
    | 0x62 => .ok ('\x08', rest)
    | 0x66 => .ok ('\x0c', rest)
    | 0x6E => .ok ('\n', rest)
    | 0x72 => .ok ('\r', rest)
    | 0x74 => .ok ('\t', rest)
    | 0x75 => do
      let (n, rest) ← readHex rest
      if 0xDC00 ≤ n ∧ n ≤ 0xDFFF then stopHere .loneSurrogate rest
      else if 0xD800 ≤ n ∧ n ≤ 0xDBFF then readLowSurrogate n rest
      else .ok (Char.ofNat n, rest)
    | _ => stopHere .invalidEscape rest

/-- Takes the rest of a text after its opening quote, given the characters so far in reverse. The
bound on the number of characters is never reached by the callers. -/
def readTextFrom : (bound : Nat) → List Char → Reader String
  | 0, _, rest => stopHere .endInText rest
  | _ + 1, _, [] => stopHere .endInText []
  | bound + 1, taken, b :: rest =>
    if b = 0x22 then .ok (String.ofList taken.reverse, rest)
    else if b = 0x5C then do
      let (c, rest) ← readEscape rest
      readTextFrom bound (c :: taken) rest
    else if b < 0x20 then stopHere .controlCharacter rest
    else
      let (c, rest) := Text.Utf8.readChar b rest
      readTextFrom bound (c.getD Text.Utf8.replacement :: taken) rest

/-- Takes the rest of a text after its opening quote. -/
def readText : Reader String := fun bs => readTextFrom (bs.length + 1) [] bs

/-! ### Numbers -/

/-- A decimal digit. -/
def isDigit (b : UInt8) : Bool := 0x30 ≤ b && b ≤ 0x39

/-- The significant digits of a number: as many as fit 64 bits, and the number of those that do
not fit any more. -/
structure Digits where
  significand : Nat
  skipped : Nat

/-- Adds the digits to a significand while it fits 64 bits; from the first that does not fit on,
digits are only counted. -/
def Digits.add (start : Digits) (digits : Bytes) : Digits :=
  digits.foldl (fun d b =>
    let next := d.significand * 10 + (b.toNat - 0x30)
    if d.skipped = 0 ∧ next < UInt64.size then { d with significand := next }
    else { d with skipped := d.skipped + 1 }) start

/-- The double `significand * 10 ^ exponent`, computed with doubles: a power of ten beyond `10 ^
308` is divided out in steps. There is none if the number is too large. -/
def scale (significand : Float) (exponent : Int) : (steps : Nat) → Option Float
  | 0 => some 0
  | steps + 1 =>
    if exponent.natAbs ≤ 308 then
      let power := Float.ofScientific 1 false exponent.natAbs
      if 0 ≤ exponent then
        let x := significand * power
        if x.isInf then none else some x
      else some (significand / power)
    else if significand == 0 then some 0
    else if 0 ≤ exponent then none
    else scale (significand / Float.ofScientific 1 false 308) (exponent + 308) steps

/-- The number `significand * 10 ^ exponent` with a sign; the steps suffice, since a double divided
three times by `10 ^ 308` is zero. -/
def realNumber (negative : Bool) (significand : Nat) (exponent : Int) (rest : Bytes) :
    Except Stop (Number × Bytes) :=
  match scale (Float.ofNat significand) exponent 4 with
  | none => stopHere .numberOutOfRange rest
  | some x => .ok (.real (.ofFloat (if negative then -x else x)), rest)

/-- Takes the exponent after its letter; `exponent` is the one from the place of the point. -/
def readExponent (negative : Bool) (significand : Nat) (exponent : Int) : Reader Number :=
  fun bs =>
    let (down, bs) := match bs with
      | 0x2B :: rest => (false, rest)
      | 0x2D :: rest => (true, rest)
      | bs => (false, bs)
    match bs with
    | [] => stopHere .endInValue []
    | b :: rest =>
      if isDigit b then
        let digits := b :: rest.takeWhile isDigit
        let rest := rest.dropWhile isDigit
        let size : Nat := digits.foldl (fun n b => n * 10 + (b.toNat - 0x30)) 0
        if UInt32.size / 2 ≤ size then
          if significand = 0 ∨ down then
            .ok (.real (.zero negative), rest)
          else stopHere .numberOutOfRange rest
        else
          let exponent := if down then exponent - (size : Int) else exponent + (size : Int)
          realNumber negative significand exponent rest
      else stopHere .invalidNumber rest

/-- Takes what follows the digits of a number: an exponent or nothing. -/
def readTail (negative : Bool) (significand : Nat) (exponent : Int) : Reader Number
  | 0x65 :: rest => readExponent negative significand exponent rest
  | 0x45 :: rest => readExponent negative significand exponent rest
  | rest => realNumber negative significand exponent rest

/-- Takes the digits after the point of a number. -/
def readFraction (negative : Bool) (whole : Digits) : Reader Number := fun bs =>
  let digits := bs.takeWhile isDigit
  let rest := bs.dropWhile isDigit
  if digits.isEmpty then
    stopNext (if rest.isEmpty then .endInValue else .invalidNumber) rest
  else
    let all := Digits.add ⟨whole.significand, 0⟩ digits
    readTail negative all.significand (whole.skipped - (digits.length - all.skipped : Int)) rest

/-- Takes what follows the digits before the point of a number. -/
def readNumberFrom (negative : Bool) (digits : Bytes) : Reader Number := fun rest =>
  let whole := Digits.add ⟨0, 0⟩ digits
  match rest with
  | 0x2E :: rest => readFraction negative whole rest
  | 0x65 :: _ => readTail negative whole.significand whole.skipped rest
  | 0x45 :: _ => readTail negative whole.significand whole.skipped rest
  | _ =>
    if whole.skipped = 0 ∧
        (!negative ∨ (0 < whole.significand ∧ whole.significand ≤ UInt64.size / 2)) then
      .ok (.integer (if negative then -whole.significand else whole.significand), rest)
    else realNumber negative whole.significand whole.skipped rest

/-- Takes a number after its sign. -/
def readNumber (negative : Bool) : Reader Number
  | [] => stopHere .endInValue []
  | 0x30 :: rest =>
    match rest with
    | b :: _ =>
      if isDigit b then stopNext .invalidNumber rest else readNumberFrom negative [0x30] rest
    | [] => readNumberFrom negative [0x30] rest
  | b :: rest =>
    if isDigit b then
      readNumberFrom negative (b :: rest.takeWhile isDigit) (rest.dropWhile isDigit)
    else stopHere .invalidNumber rest

/-! ### Containers -/

/-- Takes the items of an array after the first bracket or an item, up to the last bracket. Each
item takes a byte, so the bound is never reached by the callers. -/
def readItems (item : Reader Value) : (bound : Nat) → (first : Bool) → Reader (List Value)
  | 0, _, rest => stopHere .endInList rest
  | bound + 1, first, bs =>
    match skipSpace bs with
    | [] => stopNext .endInList []
    | 0x5D :: rest => .ok ([], rest)
    | b :: rest => do
      let start ← if first then .ok (b :: rest) else
        if b = 0x2C then
          match skipSpace rest with
          | [] => stopNext .endInValue []
          | 0x5D :: after => stopNext .trailingComma (0x5D :: after)
          | start => .ok start
        else stopNext .expectedCommaInList (b :: rest)
      let (value, rest) ← item start
      let (values, rest) ← readItems item bound false rest
      .ok (value :: values, rest)

/-- Takes a member whose opening quote was taken. -/
def readMember (item : Reader Value) : Reader (String × Value) := fun bs => do
  let (name, rest) ← readText bs
  match skipSpace rest with
  | [] => stopNext .endInObject []
  | 0x3A :: rest => do
    let (value, rest) ← item rest
    .ok ((name, value), rest)
  | rest => stopNext .expectedColon rest

/-- Takes the members of an object after the first brace or a member, up to the last brace. Each
member takes a byte, so the bound is never reached by the callers. -/
def readMembers (item : Reader Value) :
    (bound : Nat) → (first : Bool) → Reader (List (String × Value))
  | 0, _, rest => stopHere .endInObject rest
  | bound + 1, first, bs =>
    match skipSpace bs with
    | [] => stopNext .endInObject []
    | 0x7D :: rest => .ok ([], rest)
    | b :: rest => do
      let start ← if first then
          if b = 0x22 then .ok rest else stopNext .nameNotText (b :: rest)
        else if b = 0x2C then
          match skipSpace rest with
          | [] => stopNext .endInValue []
          | 0x22 :: after => .ok after
          | 0x7D :: after => stopNext .trailingComma (0x7D :: after)
          | start => stopNext .nameNotText start
        else stopNext .expectedCommaInObject (b :: rest)
      let (member, rest) ← readMember item start
      let (members, rest) ← readMembers item bound false rest
      .ok (member :: members, rest)

/-- Takes a value after blanks; containers inside it may be nested `depth` deep. -/
def readValue (depth : Nat) : Reader Value := fun bs =>
  match skipSpace bs with
  | [] => stopNext .endInValue []
  | 0x6E :: rest => (readWord [0x75, 0x6C, 0x6C] rest).map fun ((), rest) => (.null, rest)
  | 0x74 :: rest => (readWord [0x72, 0x75, 0x65] rest).map fun ((), rest) => (.bool true, rest)
  | 0x66 :: rest =>
    (readWord [0x61, 0x6C, 0x73, 0x65] rest).map fun ((), rest) => (.bool false, rest)
  | 0x22 :: rest => (readText rest).map fun (s, rest) => (.text s, rest)
  | 0x2D :: rest => (readNumber true rest).map fun (n, rest) => (.number n, rest)
  | 0x5B :: rest =>
    match depth with
    | 0 => stopNext .tooDeep (0x5B :: rest)
    | depth + 1 =>
      (readItems (readValue depth) (rest.length + 1) true rest).map fun (items, rest) =>
        (.array items, rest)
  | 0x7B :: rest =>
    match depth with
    | 0 => stopNext .tooDeep (0x7B :: rest)
    | depth + 1 =>
      (readMembers (readValue depth) (rest.length + 1) true rest).map fun (members, rest) =>
        (.object members, rest)
  | b :: rest =>
    if isDigit b then (readNumber false (b :: rest)).map fun (n, rest) => (.number n, rest)
    else stopNext .expectedValue (b :: rest)

/-- The number of containers that may stand in each other. -/
def depthLimit : Nat := 127

/-- A problem at a line and a column. -/
structure Fault where
  problem : Problem
  line : Nat
  column : Nat
  deriving DecidableEq, Repr

/-- The wording of a problem with its place. -/
def Fault.message (fault : Fault) : String :=
  s!"{fault.problem.message} at line {fault.line} column {fault.column}"

/-- The problem at its line and column in the whole text. -/
def Stop.locate (stop : Stop) (whole : Bytes) : Fault :=
  let before := whole.take (whole.length - stop.left)
  ⟨stop.problem, before.count 0x0A + 1, (before.reverse.takeWhile (· != 0x0A)).length⟩

/-- The value that the bytes are, with blanks around it. -/
def read (bs : Bytes) : Except Fault Value :=
  match readValue depthLimit bs with
  | .error stop => .error (stop.locate bs)
  | .ok (value, rest) =>
    match skipSpace rest with
    | [] => .ok value
    | rest => .error ((Stop.mk .trailingCharacters (rest.length - 1)).locate bs)

/-- The value that a text is. -/
def readString (s : String) : Except Fault Value := read (Text.Utf8.encode s)

end PageMerge.Json
