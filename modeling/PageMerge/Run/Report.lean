import PageMerge.Files.Tree
import PageMerge.Json.Printer
import PageMerge.Upload.Outcome

/-!
# The report of a run

Every run ends with a report: the outcomes and their summary if articles were uploaded, and the
errors otherwise.

## Main definitions

* `ReportDocument`: what a report says
* `ReportDocument.write`: the file of a report
-/

namespace PageMerge

open PageMerge.Files (FileTree IoError Path)
open PageMerge.Json (Value)
open PageMerge.Upload (RowOutcome Tally)

/-- What the report of a run says. -/
inductive ReportDocument where
  /-- Articles were uploaded. The errors tell which files could not be written. -/
  | completed (summary : Tally) (outcomes : List RowOutcome) (errors : List String)
  /-- The run did not take place. -/
  | rejected (errorId : Nat) (errors : List String)
  deriving DecidableEq, Repr

namespace ReportDocument

/-- A member with the errors, unless there are none. -/
def errorMembers (errors : List String) : List (String × Value) :=
  if errors.isEmpty then [] else [("errors", .array (errors.map .text))]

/-- A report as JSON. -/
def toJson : ReportDocument → Value
  | .completed summary outcomes errors =>
    .object ([("status", .text "completed"), ("summary", summary.toJson),
      ("outcomes", .array (outcomes.map RowOutcome.toJson))] ++ errorMembers errors)
  | .rejected errorId errors =>
    .object [("status", .text "rejected"), ("error_id", .nat errorId),
      ("errors", .array (errors.map .text))]

/-- The bytes of the report. -/
def bytes (document : ReportDocument) : Text.Bytes := Text.Utf8.encode document.toJson.pretty

/-- Writes the report to a file. -/
def write (document : ReportDocument) (path : Path) (tree : FileTree) :
    Except IoError Unit × FileTree :=
  tree.writeFileWithin path document.bytes

end ReportDocument

end PageMerge
