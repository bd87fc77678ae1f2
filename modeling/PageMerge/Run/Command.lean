import PageMerge.Run.Result

/-!
# Runs from the command line

A run, or only its preparation, with everything that happens written into the log, and the status
with which the program ends.

## Main definitions

* `ExitStatus`: how a command ends
* `runCommandWith`: a run with a given way to upload the articles
* `runCommand`, `checkCommand`: the two commands
-/

namespace PageMerge

open PageMerge.Config (Settings)
open PageMerge.Upload (RowOutcome uploadBatch)
open PageMerge.Wiki (Article WikiAccess)

/-- How a command ends. -/
inductive ExitStatus where
  | noErrors
  /-- Some rows need another run. -/
  | minorErrors
  /-- The run did not take place, or its files were not written. -/
  | fatalErrors
  deriving DecidableEq, Repr

/-- The exit code of the program. -/
def ExitStatus.exitCode : ExitStatus → Nat
  | .noErrors => 0
  | .minorErrors => 1
  | .fatalErrors => 2

/-- Progress as an entry of the log. -/
def logProgress : Event → Event
  | .progress done total => .log (Log.info s!"Processed {done} of {total} articles")
  | event => event

variable {σ : Type}

/-- The status of a run that took place, and what the log says about it. -/
def finish (report : RunResult) : ExitStatus × List Log.Entry :=
  if report.hasUnwritten then
    (.fatalErrors, report.unwritten.flatMap RunFault.entries ++
      [Log.error (s!"Finished uploading, but the results of {report.summary.total} article(s) " ++
        s!"could not be recorded")])
  else if report.summary.retryCount = 0 then (.noErrors, [Log.info "Finished without errors"])
  else
    let ledger := report.summary.ledgerPath.getD ""
    (.minorErrors, [Log.warning (s!"Finished with {report.summary.retryCount} article(s) not " ++
      s!"uploaded, see '{ledger}'")])

/-- Runs everything, with a given way to upload the articles. -/
def runCommandWith (settings : Settings) (client : WikiAccess σ) (paths : RunFiles)
    (upload : List Article → Activity σ (List RowOutcome)) :
    Activity (Workspace σ) ExitStatus := do
  match ← (runWith settings client paths upload).mapEvents logProgress with
  | .ok report => do
    let (status, entries) := finish report
    Activity.logAll entries
    pure status
  | .error e => do
    Activity.logAll e.entries
    Activity.log (Log.error "Stopped without uploading the remaining articles")
    pure .fatalErrors

/-- Runs everything, one article after the other. Nothing cancels this run. -/
def runCommand (settings : Settings) (client : WikiAccess σ) (paths : RunFiles) :
    Activity (Workspace σ) ExitStatus :=
  runCommandWith settings client paths (uploadBatch client (uploadPlan settings) none)

/-- Prepares a run and uploads nothing. -/
def checkCommand (settings : Settings) (client : WikiAccess σ) (paths : RunFiles) :
    Activity (Workspace σ) ExitStatus := do
  match ← (prepare settings client paths).run with
  | .ok prepared => do
    Activity.log (Log.info (s!"Validation passed, {prepared.articles.length} articles would be " ++
      s!"uploaded to space '{settings.uploadSpace}'"))
    pure .noErrors
  | .error e => do
    Activity.logAll e.entries
    pure .fatalErrors

end PageMerge
