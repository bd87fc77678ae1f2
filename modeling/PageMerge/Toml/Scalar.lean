import PageMerge.Toml.Value

/-!
# Simple TOML values

Readers for the parts of a TOML document that contain no other values: blanks and comments, texts,
numbers, dates and times. A reader takes characters from the front of the text and gives what is
left, or fails.

Integers have 64 bits with a sign. Underscores may stand between digits, and a decimal number has no
superfluous zero in front. A number beyond the doubles is refused if it is positive and minus
infinity if it is negative.

## Main definitions

* `Reader`: takes characters from the front of a text
* `readText`: a text in any of the four notations
* `readNumber`: a number, a date or a time
-/

namespace PageMerge.Toml

/-- Takes characters from the front of a text. -/
abbrev Reader (α : Type) := List Char → Option (α × List Char)

/-! ### Blanks and comments -/

/-- A blank within a line. -/
def isSpace (c : Char) : Bool := c == ' ' || c == '\t'

/-- The text without the blanks at its front. -/
def skipSpace (cs : List Char) : List Char := cs.dropWhile isSpace

/-- The text after a line break at its front. -/
def afterBreak? : List Char → Option (List Char)
  | '\n' :: rest => some rest
  | '\r' :: '\n' :: rest => some rest
  | _ => none

/-- A character that may stand in a comment or a text: no control except the tabulator. -/
def isPlain (c : Char) : Bool := c == '\t' || (0x20 ≤ c.toNat && c.toNat != 0x7F)

/-- The text after a comment at its front. -/
def skipComment : List Char → List Char
  | '#' :: rest => rest.dropWhile isPlain
  | cs => cs

/-- The text without the blanks and line breaks at its front. -/
def skipSpaceAndBreaks : List Char → List Char
  | [] => []
  | '\r' :: '\n' :: rest => skipSpaceAndBreaks rest
  | c :: rest => if isSpace c || c == '\n' then skipSpaceAndBreaks rest else c :: rest

/-- The text after blanks, a comment and the end of the line. -/
def finishLine? (cs : List Char) : Option (List Char) :=
  match skipComment (skipSpace cs) with
  | [] => some []
  | rest => afterBreak? rest

/-! ### Texts -/

/-- The value of a hexadecimal digit. -/
def hexValue? (c : Char) : Option Nat :=
  if '0' ≤ c ∧ c ≤ '9' then some (c.toNat - 48)
  else if 'a' ≤ c ∧ c ≤ 'f' then some (c.toNat - 87)
  else if 'A' ≤ c ∧ c ≤ 'F' then some (c.toNat - 55)
  else none

/-- Takes a character that is written by `count` hexadecimal digits. -/
def readCodePoint (count : Nat) : Reader Char := fun cs => do
  let digits ← (cs.take count).mapM hexValue?
  let n := digits.foldl (fun n d => n * 16 + d) 0
  if digits.length = count ∧ n.isValidChar then some (Char.ofNat n, cs.drop count) else none

/-- Takes the character that is written after a backslash. -/
def readEscape : Reader Char
  | 'b' :: rest => some ('\x08', rest)
  | 'f' :: rest => some ('\x0c', rest)
  | 'n' :: rest => some ('\n', rest)
  | 'r' :: rest => some ('\r', rest)
  | 't' :: rest => some ('\t', rest)
  | 'u' :: rest => readCodePoint 4 rest
  | 'U' :: rest => readCodePoint 8 rest
  | '\\' :: rest => some ('\\', rest)
  | '"' :: rest => some ('"', rest)
  | _ => none

/-- Takes the rest of a text between quotes, given the characters so far in reverse. The bound on
the number of characters is never reached by the callers. -/
def readQuotedFrom : (bound : Nat) → List Char → Reader String
  | 0, _, _ => none
  | _ + 1, taken, '"' :: rest => some (String.ofList taken.reverse, rest)
  | bound + 1, taken, '\\' :: rest => do
    let (c, rest) ← readEscape rest
    readQuotedFrom bound (c :: taken) rest
  | bound + 1, taken, c :: rest =>
    if isPlain c then readQuotedFrom bound (c :: taken) rest else none
  | _ + 1, _, [] => none

/-- Takes the rest of a text between apostrophes, in which every character means itself. -/
def readVerbatim (cs : List Char) : Option (String × List Char) :=
  let inside := fun c => isPlain c && c != '\''
  match cs.dropWhile inside with
  | '\'' :: rest => some (String.ofList (cs.takeWhile inside), rest)
  | _ => none

/-- The marks at the front of a text in three marks: fewer than three are characters of the text,
otherwise the last three end it and up to two before them belong to it. -/
inductive MarkRun where
  | inside (count : Nat)
  | closing (before : Nat) (rest : List Char)

/-- The marks at the front of a text, at least one. -/
def markRun (mark : Char) (cs : List Char) : MarkRun :=
  let count := (cs.takeWhile (· == mark)).length
  if count < 3 then .inside count
  else .closing (min (count - 3) 2) (cs.drop (min (count - 3) 2 + 3))

/-- Takes the rest of a text between three quotes. A backslash before the end of a line takes away
the line break with all blanks and breaks after it. -/
def readLongQuotedFrom : (bound : Nat) → List Char → Reader String
  | 0, _, _ => none
  | _ + 1, _, [] => none
  | bound + 1, taken, c :: rest =>
    if c = '"' then
      match markRun '"' (c :: rest) with
      | .closing before rest =>
        some (String.ofList (List.replicate before '"' ++ taken).reverse, rest)
      | .inside count =>
        readLongQuotedFrom bound (List.replicate count '"' ++ taken) (rest.drop (count - 1))
    else if c = '\\' then
      match afterBreak? (skipSpace rest) with
      | some rest => readLongQuotedFrom bound taken (skipSpaceAndBreaks rest)
      | none => do
        let (c, rest) ← readEscape rest
        readLongQuotedFrom bound (c :: taken) rest
    else match afterBreak? (c :: rest) with
      | some rest => readLongQuotedFrom bound ('\n' :: taken) rest
      | none => if isPlain c then readLongQuotedFrom bound (c :: taken) rest else none

/-- Takes the rest of a text between three apostrophes, in which every character means itself. -/
def readLongVerbatimFrom : (bound : Nat) → List Char → Reader String
  | 0, _, _ => none
  | _ + 1, _, [] => none
  | bound + 1, taken, c :: rest =>
    if c = '\'' then
      match markRun '\'' (c :: rest) with
      | .closing before rest =>
        some (String.ofList (List.replicate before '\'' ++ taken).reverse, rest)
      | .inside count =>
        readLongVerbatimFrom bound (List.replicate count '\'' ++ taken) (rest.drop (count - 1))
    else match afterBreak? (c :: rest) with
      | some rest => readLongVerbatimFrom bound ('\n' :: taken) rest
      | none => if isPlain c then readLongVerbatimFrom bound (c :: taken) rest else none

/-- A line break right after the opening marks of a text in three marks is not part of it. -/
def dropFirstBreak (cs : List Char) : List Char := (afterBreak? cs).getD cs

/-- Takes a text in quotes or apostrophes on one line. -/
def readShortText : Reader String
  | '"' :: rest => readQuotedFrom (rest.length + 1) [] rest
  | '\'' :: rest => readVerbatim rest
  | _ => none

/-- Takes a text in any notation. -/
def readText : Reader String
  | '"' :: '"' :: '"' :: rest =>
    let rest := dropFirstBreak rest
    readLongQuotedFrom (rest.length + 1) [] rest
  | '\'' :: '\'' :: '\'' :: rest =>
    let rest := dropFirstBreak rest
    readLongVerbatimFrom (rest.length + 1) [] rest
  | cs => readShortText cs

/-! ### Numbers -/

/-- Takes digits with single underscores between them; an underscore without a digit after it
fails. -/
def readMoreDigits (isDigit : Char → Bool) : Reader (List Char)
  | [] => some ([], [])
  | '_' :: c :: rest =>
    if isDigit c then (readMoreDigits isDigit rest).map fun (ds, rest) => (c :: ds, rest) else none
  | c :: rest =>
    if isDigit c then (readMoreDigits isDigit rest).map fun (ds, rest) => (c :: ds, rest)
    else if c = '_' then none
    else some ([], c :: rest)

/-- Takes at least one digit. -/
def readDigits (isDigit : Char → Bool) : Reader (List Char)
  | [] => none
  | c :: rest =>
    if isDigit c then (readMoreDigits isDigit rest).map fun (ds, rest) => (c :: ds, rest) else none

/-- Takes a sign; `true` is a minus. -/
def readSign : List Char → Bool × List Char
  | '+' :: rest => (false, rest)
  | '-' :: rest => (true, rest)
  | cs => (false, cs)

/-- Takes the digits of a decimal integer without superfluous zeros. -/
def readDecimalDigits : Reader (List Char)
  | '0' :: rest => some (['0'], rest)
  | cs => readDigits Char.isDigit cs

/-- The value of digits in a base. -/
def digitsValue (base : Nat) (digits : List Char) : Nat :=
  digits.foldl (fun n c => n * base + (hexValue? c).getD 0) 0

/-- An integer, if it has 64 bits with a sign. -/
def integer? (negative : Bool) (magnitude : Nat) : Option Value :=
  if negative then if magnitude ≤ UInt64.size / 2 then some (.integer (-magnitude)) else none
  else if magnitude < UInt64.size / 2 then some (.integer magnitude) else none

/-- Takes the digits of an integer after the letter of its base. -/
def readInBase (base : Nat) (isDigit : Char → Bool) : Reader Value := fun cs => do
  let (digits, rest) ← readDigits isDigit cs
  let value ← integer? false (digitsValue base digits)
  some (value, rest)

/-- Takes an integer. -/
def readInteger : Reader Value
  | '0' :: 'x' :: rest => readInBase 16 (fun c => (hexValue? c).isSome) rest
  | '0' :: 'o' :: rest => readInBase 8 (fun c => '0' ≤ c && c ≤ '7') rest
  | '0' :: 'b' :: rest => readInBase 2 (fun c => c == '0' || c == '1') rest
  | cs => do
    let (negative, cs) := readSign cs
    let (digits, rest) ← readDecimalDigits cs
    let value ← integer? negative (digitsValue 10 digits)
    some (value, rest)

/-- The number that a real number with a sign is, unless it is plus infinity. -/
def real? (negative : Bool) (digits : List Char) (exponent : Int) : Option Value :=
  let x := Decimal.toFloat (digitsValue 10 digits) exponent
  if x.isInf ∧ !negative then none
  else some (.real (.ofFloat (if negative then -x else x)))

/-- Takes an exponent with its letter. -/
def readExponent : Reader Int
  | c :: rest =>
    if c = 'e' ∨ c = 'E' then do
      let (negative, rest) := readSign rest
      let (digits, rest) ← readDigits Char.isDigit rest
      let size : Int := digitsValue 10 digits
      some (if negative then -size else size, rest)
    else none
  | [] => none

/-- Takes a number with a point or an exponent. -/
def readReal : Reader Value := fun cs => do
  let (negative, cs) := readSign cs
  let (whole, rest) ← readDecimalDigits cs
  match rest with
  | '.' :: rest => do
    let (fraction, rest) ← readDigits Char.isDigit rest
    let (exponent, rest) := (readExponent rest).getD (0, rest)
    let value ← real? negative (whole ++ fraction) (exponent - fraction.length)
    some (value, rest)
  | rest => do
    let (exponent, rest) ← readExponent rest
    let value ← real? negative whole exponent
    some (value, rest)

/-- Takes an infinity, or the value that is no number. -/
def readSpecial : Reader Value := fun cs =>
  let (negative, cs) := readSign cs
  match cs with
  | 'i' :: 'n' :: 'f' :: rest => some (.real (.infinite negative), rest)
  | 'n' :: 'a' :: 'n' :: rest => some (.real .nan, rest)
  | _ => none

/-! ### Dates and times -/

/-- Takes exactly `count` digits. -/
def readFixed (count : Nat) : Reader Nat := fun cs =>
  let digits := cs.take count
  if digits.length = count ∧ digits.all Char.isDigit then
    some (digitsValue 10 digits, cs.drop count)
  else none

/-- Takes a character. -/
def readMark (mark : Char) : List Char → Option (List Char)
  | c :: rest => if c = mark then some rest else none
  | [] => none

/-- The number of days of a month. -/
def daysOfMonth (year month : Nat) : Nat :=
  if month = 2 then
    if year % 4 = 0 ∧ (year % 100 ≠ 0 ∨ year % 400 = 0) then 29 else 28
  else if month = 4 ∨ month = 6 ∨ month = 9 ∨ month = 11 then 30
  else 31

/-- The text after a date at its front. -/
def afterDate? (cs : List Char) : Option (List Char) := do
  let (year, cs) ← readFixed 4 cs
  let (month, cs) ← readFixed 2 (← readMark '-' cs)
  let (day, cs) ← readFixed 2 (← readMark '-' cs)
  if 1 ≤ month ∧ month ≤ 12 ∧ 1 ≤ day ∧ day ≤ daysOfMonth year month then some cs else none

/-- The text after hours and minutes at its front. -/
def afterMinutes? (cs : List Char) : Option (List Char) := do
  let (hour, cs) ← readFixed 2 cs
  let (minute, cs) ← readFixed 2 (← readMark ':' cs)
  if hour ≤ 23 ∧ minute ≤ 59 then some cs else none

/-- The text after a time at its front; a second may be the sixtieth, and may have a fraction. -/
def afterTime? (cs : List Char) : Option (List Char) := do
  let (second, cs) ← readFixed 2 (← readMark ':' (← afterMinutes? cs))
  if 60 < second then none
  else match cs with
    | '.' :: rest =>
      if (rest.takeWhile Char.isDigit).isEmpty then none else some (rest.dropWhile Char.isDigit)
    | cs => some cs

/-- The text after the offset of a time at its front, if there is one. -/
def afterOffset (cs : List Char) : List Char :=
  match cs with
  | 'Z' :: rest => rest
  | 'z' :: rest => rest
  | '+' :: rest => (afterMinutes? rest).getD cs
  | '-' :: rest => (afterMinutes? rest).getD cs
  | cs => cs

/-- Takes a date with or without a time, or a time. -/
def readMoment : Reader Value := fun cs =>
  match afterDate? cs with
  | some rest =>
    let timed := match rest with
      | c :: after =>
        if c = 'T' ∨ c = 't' ∨ c = ' ' then (afterTime? after).map afterOffset else none
      | [] => none
    some (.moment, timed.getD rest)
  | none => (afterTime? cs).map fun rest => (.moment, rest)

/-- Takes a number, a date or a time, whichever of them the text starts with. -/
def readNumber : Reader Value := fun cs =>
  (readMoment cs).orElse fun () =>
    (readReal cs).orElse fun () => (readSpecial cs).orElse fun () => readInteger cs

end PageMerge.Toml
