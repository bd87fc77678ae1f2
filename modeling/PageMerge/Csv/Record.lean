import PageMerge.Text.Utf8

/-!
# CSV records

Splits bytes into records and fields. A field that starts with a quote reaches to the next quote;
inside it delimiters and line breaks are text, and two quotes stand for one. Every line feed and
every carriage return ends a record, and line breaks between records are skipped, so that a pair of
both is one break and an empty line is no record. A byte order mark at the very start is skipped.

Each record knows where the reader stood when it began to look for it: the number of records before
it, the line (one more than the line feeds passed), and the byte offset.

## Main definitions

* `Place`, `Place.move`: where the reader stands, and what it does with a byte
* `records`: the records of the bytes

## Main results

* `records_nil`: no bytes hold no record
-/

namespace PageMerge.Csv

open PageMerge.Text (Bytes)

/-- The byte of a double quote. -/
def quote : UInt8 := 0x22

/-- The bytes that end a line. -/
def isBreak (b : UInt8) : Bool := b == 0x0A || b == 0x0D

/-- Where the reader stands. -/
inductive Place where
  /-- Before a record: line breaks are skipped. -/
  | betweenRecords
  /-- At the start of a field. -/
  | fieldStart
  /-- In a field without quotes, or behind the closing quote of one. -/
  | inField
  /-- Between the quotes of a field. -/
  | inQuotes
  /-- After a quote inside a quoted field, which closes the field unless another one follows. -/
  | afterQuote
  deriving DecidableEq, Repr

/-- What the reader does with a byte. -/
inductive Move where
  /-- It drops the byte. -/
  | skip (next : Place)
  /-- It adds the byte to the field. -/
  | keep (next : Place)
  /-- It ends the field; another one follows. -/
  | endField
  /-- It ends the field and the record. -/
  | endRecord
  deriving DecidableEq, Repr

/-- What the reader does with a byte at a place. -/
def Place.move (delimiter : UInt8) (place : Place) (b : UInt8) : Move :=
  match place with
  | .betweenRecords =>
    if isBreak b then .skip .betweenRecords
    else if b = quote then .skip .inQuotes
    else if b = delimiter then .endField
    else .keep .inField
  | .fieldStart =>
    if b = quote then .skip .inQuotes
    else if b = delimiter then .endField
    else if isBreak b then .endRecord
    else .keep .inField
  | .inField =>
    if b = delimiter then .endField
    else if isBreak b then .endRecord
    else .keep .inField
  | .inQuotes => if b = quote then .skip .afterQuote else .keep .inQuotes
  | .afterQuote =>
    if b = quote then .keep .inQuotes
    else if b = delimiter then .endField
    else if isBreak b then .endRecord
    else .keep .inField

/-- Where the reader stood when it began to look for a record. -/
structure Position where
  /-- The number of records before this one. -/
  record : Nat
  /-- One more than the number of line feeds passed. -/
  line : Nat
  /-- The number of bytes passed. -/
  byte : Nat
  deriving DecidableEq, Repr

/-- A record as it was found. -/
structure Record where
  start : Position
  fields : List Bytes
  deriving DecidableEq, Repr

/-- The reader in the middle of the bytes. -/
structure Scan where
  place : Place
  /-- The bytes of the field so far, the last one first. -/
  field : Bytes
  /-- The fields of the record so far, the last one first. -/
  fields : List Bytes
  /-- Where the reader began to look for the record. -/
  start : Position
  line : Nat
  byte : Nat
  deriving Repr

namespace Scan

/-- The reader before the first byte, when `skipped` bytes were passed over. -/
def atStart (skipped : Nat) : Scan := ⟨.betweenRecords, [], [], ⟨0, 1, 0⟩, 1, skipped⟩

/-- The record that ends with the field so far. -/
def record (scan : Scan) : Record := ⟨scan.start, (scan.field.reverse :: scan.fields).reverse⟩

/-- The reader after a byte is passed. -/
def pass (scan : Scan) (b : UInt8) : Scan :=
  { scan with line := if b = 0x0A then scan.line + 1 else scan.line, byte := scan.byte + 1 }

/-- The reader after a byte, and the record that ends with it. -/
def step (delimiter : UInt8) (scan : Scan) (b : UInt8) : Scan × Option Record :=
  let passed := scan.pass b
  match scan.place.move delimiter b with
  | .skip next => ({ passed with place := next }, none)
  | .keep next => ({ passed with place := next, field := b :: scan.field }, none)
  | .endField =>
    ({ passed with place := .fieldStart, field := [], fields := scan.field.reverse :: scan.fields },
      none)
  | .endRecord =>
    ({ passed with
        place := .betweenRecords, field := [], fields := [],
        start := ⟨scan.start.record + 1, passed.line, passed.byte⟩ },
      some scan.record)

/-- The records from the reader's place on. Bytes that are left over at the end are a record. -/
def records (delimiter : UInt8) (scan : Scan) : Bytes → List Record
  | [] => if scan.place = .betweenRecords then [] else [scan.record]
  | b :: rest =>
    let (next, record) := scan.step delimiter b
    match record with
    | none => records delimiter next rest
    | some record => record :: records delimiter next rest

end Scan

/-- The records of the bytes. -/
def records (delimiter : UInt8) (bs : Bytes) : List Record :=
  match bs with
  | 0xEF :: 0xBB :: 0xBF :: rest => (Scan.atStart 3).records delimiter rest
  | bs => (Scan.atStart 0).records delimiter bs

@[simp] theorem records_nil (delimiter : UInt8) : records delimiter [] = [] := rfl

end PageMerge.Csv
