import PageMerge.Config.Settings

/-!
# The files of a run

Where a run writes its failure ledger, its report and its dumps.

## Main definitions

* `RunFiles`: the places of these files
* `RunFiles.ofLedger`: the places of a run with a given ledger
* `RunFiles.ofJob`: the places of a job, all of them in a directory of its own
-/

namespace PageMerge

open PageMerge.Files (Path)

/-- The places of the files that a run writes. -/
structure RunFiles where
  ledger : Path
  report : Path
  dumpDirectory : Path
  deriving DecidableEq, Repr

namespace RunFiles

/-- The name of the report. -/
def reportName : Path := "run_report.json"

/-- The name of the ledger of a job. -/
def ledgerName : Path := "errored_articles.csv"

/-- The name of the directory of dumps. -/
def dumpName : Path := "dump"

/-- The report stands next to the ledger, and dumps go to the working directory. -/
def ofLedger (ledger : Path) : RunFiles where
  ledger := ledger
  report := (ledger.parent?.map (·.join reportName)).getD reportName
  dumpDirectory := dumpName

/-- The places of a run on its own. -/
def ofSettings (settings : Config.Settings) : RunFiles := ofLedger settings.erroredArticlesCsv

/-- The places of a job. -/
def ofJob (base : Path) (job : String) : RunFiles :=
  let directory := base.join job
  ⟨directory.join ledgerName, directory.join reportName, directory.join dumpName⟩

end RunFiles

end PageMerge
