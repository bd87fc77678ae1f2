import PageMerge.Csv.Record
import PageMerge.Files.Tree

/-!
# Data sets

The article data: a header, and rows that have a value for every column of it. One column holds the
identifiers of the rows.

## Main definitions

* `Row`, `DataSet`: the article data
* `LoadError`: why article data cannot be used
-/

namespace PageMerge.Data

open PageMerge.Files (IoError Path)

/-- One row of the article data. -/
structure Row where
  /-- The line of the file from which on the row was looked for; the header has line 1. -/
  line : Nat
  /-- The value in the column of identifiers. -/
  id : String
  /-- The columns with their values. -/
  fields : List (String × String)
  deriving DecidableEq, Repr

/-- The value of a row in a column. -/
def Row.get? (row : Row) (column : String) : Option String := row.fields.lookup column

/-- The rows of a file with what is needed to write them again. -/
structure DataSet where
  headers : List String
  delimiter : UInt8
  idColumn : String
  rows : List Row
  deriving DecidableEq, Repr

/-- An identifier of several rows, with the lines of all of them. -/
structure RepeatedId where
  value : String
  lines : List Nat
  deriving DecidableEq, Repr

/-- The identifier and its lines as a message shows them. -/
def RepeatedId.message (duplicate : RepeatedId) : String :=
  let lines := String.intercalate ", " (duplicate.lines.map toString)
  s!"'{duplicate.value}' (lines {lines})"

/-- Why a CSV text is no table. -/
inductive TableError where
  /-- A record has another number of fields than the header. -/
  | unequalLengths (start : Csv.Position) (expected found : Nat)
  /-- A field of a record is no text: the byte at an offset starts no character. -/
  | notText (start : Csv.Position) (field offset : Nat)
  /-- The bytes could not be read. -/
  | unreadable (cause : IoError)
  deriving DecidableEq, Repr

/-- The wording of an error. -/
def TableError.message : TableError → String
  | .unequalLengths start expected found =>
    s!"CSV error: record {start.record} (line: {start.line}, byte: {start.byte}): found record " ++
      s!"with {found} fields, but the previous record has {expected} fields"
  | .notText start field offset =>
    s!"CSV parse error: record {start.record} (line {start.line}, field: {field}, byte: " ++
      s!"{start.byte}): invalid utf-8: invalid UTF-8 in field {field} near byte index {offset}"
  | .unreadable cause => cause.message

/-- Why article data cannot be used. -/
inductive LoadError where
  | unreadable (path : Path) (cause : IoError)
  | malformed (cause : TableError)
  | duplicateColumn (column : String)
  | noIdColumn (column : String)
  | duplicateIds (duplicates : List RepeatedId)
  deriving DecidableEq, Repr

namespace LoadError

/-- The number that stands for the error in the log. -/
def id : LoadError → Nat
  | .noIdColumn _ => 1
  | .duplicateIds _ => 3
  | .unreadable .. | .malformed _ | .duplicateColumn _ => 0

/-- The number of rows beyond the first one of each identifier. -/
def extraRows (duplicates : List RepeatedId) : Nat :=
  duplicates.foldl (fun extra duplicate => extra + (duplicate.lines.length - 1)) 0

/-- The wording of the error. -/
def message : LoadError → String
  | .unreadable path cause =>
    s!"Reading the article data file '{path.text}' failed: {cause.message}"
  | .malformed cause => s!"The article data are malformed: {cause.message}"
  | .duplicateColumn column =>
    s!"The article data header contains the column '{column}' more than once"
  | .noIdColumn column =>
    s!"The article data don't contain an ID column with header '{column}'"
  | .duplicateIds duplicates =>
    let listed := String.intercalate ", " (duplicates.map RepeatedId.message)
    let extra := extraRows duplicates
    s!"The article data contain {extra} entries with non-unique ID values: {listed}"

end LoadError

end PageMerge.Data
