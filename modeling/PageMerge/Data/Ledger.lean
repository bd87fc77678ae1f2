import PageMerge.Csv.Printer
import PageMerge.Data.DataSet

/-!
# The failure ledger

The rows of a run that need another attempt are written with the header and the delimiter of the
article data, so that the ledger can be the data of another run.

## Main definitions

* `ledgerBytes`: the bytes of rows with the header of a data set
* `saveLedger`: the file with these bytes
-/

namespace PageMerge.Data

open PageMerge.Files (FileTree IoError Path)
open PageMerge.Text (Bytes)

/-- Why a ledger was not written. -/
structure UnwrittenLedger where
  path : Path
  cause : IoError
  deriving DecidableEq, Repr

/-- The wording of the error. -/
def UnwrittenLedger.message (error : UnwrittenLedger) : String :=
  s!"Could not create the failure ledger '{error.path.text}': {error.cause.message}"

/-- The fields of a row in the order of the columns; a column without a value is empty. -/
def Row.toRecord (headers : List String) (row : Row) : List Bytes :=
  headers.map fun header => Text.Utf8.encode ((row.get? header).getD "")

/-- The bytes of rows under the header of a data set. -/
def ledgerBytes (data : DataSet) (rows : List Row) : Bytes :=
  Csv.writeRecord data.delimiter (data.headers.map Text.Utf8.encode) ++
    rows.flatMap fun row => Csv.writeRecord data.delimiter (row.toRecord data.headers)

/-- Writes the ledger of rows to a file, in a directory that is made for it if it is missing. -/
def saveLedger (tree : FileTree) (path : Path) (data : DataSet) (rows : List Row) :
    Except UnwrittenLedger Unit × FileTree :=
  match tree.writeFileWithin path (ledgerBytes data rows) with
  | (.ok (), tree) => (.ok (), tree)
  | (.error e, tree) => (.error ⟨path, e⟩, tree)

end PageMerge.Data
