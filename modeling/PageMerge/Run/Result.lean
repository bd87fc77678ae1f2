import PageMerge.Run.Prepare
import PageMerge.Run.Report
import PageMerge.Upload.All

/-!
# Whole runs

A run is prepared, its articles are uploaded, the rows that need another run are written to the
failure ledger, and a report is written. Once articles are uploaded, the outcomes are kept in any
case: a ledger or report that cannot be written is noted in the result and takes nothing away.

## Main definitions

* `RunResult`: the result of a run that took place
* `runWith`, `wholeRun`: a whole run, with any way to upload the articles or one after the other
* `conclude`: what is done after the upload
-/

namespace PageMerge

open PageMerge.Config (Settings)
open PageMerge.Data (DataSet Row)
open PageMerge.Upload (CancelAfter Plan RowOutcome Tally uploadBatch)
open PageMerge.Wiki (Article WikiAccess)
open Workspace

/-- The result of a run whose articles were uploaded. -/
structure RunResult where
  outcomes : List RowOutcome
  summary : Tally
  /-- What kept the ledger and the report from being written. -/
  unwritten : List RunFault
  deriving DecidableEq, Repr

/-- A file of the run could not be written. -/
def RunResult.hasUnwritten (report : RunResult) : Bool := !report.unwritten.isEmpty

/-- Where and how a run uploads articles. -/
def uploadPlan (settings : Settings) : Plan where
  space := settings.uploadSpace
  parentPageId := settings.uploadParentPageId
  overwriteExisting := settings.overwriteExistingArticles
  workers := settings.uploadWorkers

/-- The rows whose outcome asks for another run. -/
def retryRows (rows : List Row) (outcomes : List RowOutcome) : List Row :=
  ((rows.zip outcomes).filter fun (_, row) => row.outcome.needsRetry).map Prod.fst

variable {σ : Type}

/-- Writes the ledger if rows need another run, and gives the result of the run so far. -/
def saveLedgerOf (paths : RunFiles) (data : DataSet) (outcomes : List RowOutcome) :
    Activity (Workspace σ) RunResult := do
  let summary := Tally.ofOutcomes outcomes
  let count := summary.retryCount
  if count = 0 then pure ⟨outcomes, summary, []⟩
  else do
    let written ← onFiles fun tree =>
      Data.saveLedger tree paths.ledger data (retryRows data.rows outcomes)
    match written with
    | .ok () => do
      Activity.log (Log.error (s!"{count} article(s) could not be uploaded, their data were " ++
        s!"written to '{paths.ledger.text}'"))
      pure ⟨outcomes, { summary with ledgerPath := some paths.ledger.text }, []⟩
    | .error e => do
      Activity.log (Log.error
        s!"{count} article(s) could not be uploaded and the failure ledger was not written")
      pure ⟨outcomes, summary, [.ledger e]⟩

/-- What the log says about the outcomes. -/
def summaryNotice (summary : Tally) : Log.Entry :=
  Log.info (s!"Created {summary.created}, updated {summary.updated}, skipped " ++
    s!"{summary.skippedExisting} existing, failed {summary.failed}, not attempted " ++
    s!"{summary.notAttempted} of {summary.total} articles")

/-- Writes the report of a run that took place. -/
def recordCompleted (paths : RunFiles) (report : RunResult) :
    Activity (Workspace σ) RunResult := do
  let errors := report.unwritten.flatMap RunFault.messages
  let written ← onFiles
    ((ReportDocument.completed report.summary report.outcomes errors).write paths.report)
  match written with
  | .ok () => pure report
  | .error e =>
    pure { report with unwritten := report.unwritten ++ [.artifact paths.report e] }

/-- Writes the report of a run that did not take place. -/
def recordRejected (paths : RunFiles) (error : RunFault) : Activity (Workspace σ) Unit := do
  let written ← onFiles ((ReportDocument.rejected error.id error.messages).write paths.report)
  match written with
  | .ok () => pure ()
  | .error e =>
    Activity.log (Log.error
      s!"[E0] Could not write the run report '{paths.report.text}': {e.message}")

/-- What is done after the upload: ledger, summary and report. -/
def conclude (paths : RunFiles) (data : DataSet) (outcomes : List RowOutcome) :
    Activity (Workspace σ) RunResult := do
  let report ← saveLedgerOf paths data outcomes
  Activity.log (summaryNotice report.summary)
  recordCompleted paths report

/-- A whole run with a given way to upload the articles. -/
def runWith (settings : Settings) (client : WikiAccess σ) (paths : RunFiles)
    (upload : List Article → Activity σ (List RowOutcome)) :
    Activity (Workspace σ) (Except RunFault RunResult) := do
  match ← (prepare settings client paths).run with
  | .error e => do
    recordRejected paths e
    pure (.error e)
  | .ok prepared => do
    let outcomes ← onWiki (upload prepared.articles)
    return .ok (← conclude paths prepared.data outcomes)

/-- A whole run, which uploads one article after the other. -/
def wholeRun (settings : Settings) (client : WikiAccess σ) (paths : RunFiles)
    (cancel : CancelAfter) : Activity (Workspace σ) (Except RunFault RunResult) :=
  runWith settings client paths (uploadBatch client (uploadPlan settings) cancel)

end PageMerge
