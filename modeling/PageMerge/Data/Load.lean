import PageMerge.Data.DataSet
import PageMerge.Log
import PageMerge.Text.Blank

/-!
# Loading article data

The first record of the data is the header, every other one a row with a field for each column. The
header is kept as it is, so that the names of placeholders are compared with it exactly, and fields
are trimmed. Every row must have an identifier of its own; rows that repeat one are collected over
the whole file.

The first problem in this order is reported: a malformed header, a repeated column, a missing
identifier column, the first malformed record, repeated identifiers.

## Main definitions

* `load`: the data set of the bytes
* `loadFile`: the data set of a file
-/

namespace PageMerge.Data

open PageMerge.Files (FileTree Path)
open PageMerge.Text (Bytes)

/-! ### Records -/

/-- A blank of ASCII as fields are trimmed of it before they are read as text. -/
def isBlankByte (b : UInt8) : Bool :=
  b == 0x20 || b == 0x09 || b == 0x0A || b == 0x0C || b == 0x0D

/-- The texts of the fields of a record; the first field that is no text is reported, counted from
`index`. -/
def fieldTexts (start : Csv.Position) : (index : Nat) → List Bytes →
    Except TableError (List String)
  | _, [] => .ok []
  | index, field :: rest =>
    match Text.Utf8.decode field with
    | .error offset => .error (.notText start index offset)
    | .ok text => (fieldTexts start (index + 1) rest).map (text :: ·)

/-- The trimmed values of a record that must have as many fields as the header. -/
def values (width : Nat) (record : Csv.Record) : Except TableError (List String) :=
  if record.fields.length ≠ width then
    .error (.unequalLengths record.start width record.fields.length)
  else
    (fieldTexts record.start 0 (record.fields.map (Text.trimWith isBlankByte))).map
      (·.map Text.trim)

/-- The row of a record's values. -/
def rowOf (headers : List String) (idIndex : Nat) (line : Nat) (values : List String) : Row :=
  ⟨line, (values[idIndex]?).getD "", headers.zip values⟩

/-- The rows of the records up to the first malformed one, and what is wrong with that. -/
def readRows (headers : List String) (idIndex : Nat) :
    List Csv.Record → List Row × Option TableError
  | [] => ([], none)
  | record :: rest =>
    match values headers.length record with
    | .error e => ([], some e)
    | .ok values =>
      let (rows, error) := readRows headers idIndex rest
      (rowOf headers idIndex record.start.line values :: rows, error)

/-! ### Identifiers -/

/-- The first element that occurs again, by where it occurs for the second time. -/
def firstRepeated? [DecidableEq α] (seen : List α) : List α → Option α
  | [] => none
  | a :: rest => if a ∈ seen then some a else firstRepeated? (a :: seen) rest

/-- The rows whose identifier an earlier row has. -/
def repeatedRows (seen : List String) : List Row → List Row
  | [] => []
  | row :: rest =>
    if row.id ∈ seen then row :: repeatedRows seen rest
    else repeatedRows (row.id :: seen) rest

/-- What the log says about a row that repeats an identifier. -/
def repeatedNotice (row : Row) : Log.Entry :=
  Log.error (s!"[E2] The article data already contain an entry with the ID '{row.id}' " ++
    s!"(line {row.line})")

/-- The identifiers that several rows have, in the order of their first rows. -/
def duplicates (rows : List Row) : List RepeatedId :=
  ((rows.map Row.id).eraseDups.map fun id =>
    RepeatedId.mk id ((rows.filter (·.id == id)).map Row.line)).filter (1 < ·.lines.length)

/-! ### Data sets -/

/-- The header of the records, and the records after it. -/
def splitHeader : List Csv.Record → Except TableError (List String × List Csv.Record)
  | [] => .ok ([], [])
  | header :: rest => (fieldTexts header.start 0 header.fields).map (·, rest)

/-- The data set of the bytes, and what is logged on the way. -/
def load (bytes : Bytes) (delimiter : UInt8) (idColumn : String) :
    Except LoadError DataSet × List Log.Entry :=
  match splitHeader (Csv.records delimiter bytes) with
  | .error e => (.error (.malformed e), [])
  | .ok (headers, records) =>
    match firstRepeated? [] headers with
    | some column => (.error (.duplicateColumn column), [])
    | none =>
      match headers.idxOf? idColumn with
      | none => (.error (.noIdColumn idColumn), [])
      | some idIndex =>
        let (rows, error) := readRows headers idIndex records
        let log := (repeatedRows [] rows).map repeatedNotice
        match error, duplicates rows with
        | some e, _ => (.error (.malformed e), log)
        | none, [] => (.ok ⟨headers, delimiter, idColumn, rows⟩, log)
        | none, duplicates => (.error (.duplicateIds duplicates), log)

/-- The data set of a file. A directory can be opened but has no bytes to read. -/
def loadFile (tree : FileTree) (path : Path) (delimiter : UInt8) (idColumn : String) :
    Except LoadError DataSet × List Log.Entry :=
  match tree.open? path with
  | .error e => (.error (.unreadable path e), [])
  | .ok .directory => (.error (.malformed (.unreadable .isADirectory)), [])
  | .ok (.file content) => load content delimiter idColumn

end PageMerge.Data
