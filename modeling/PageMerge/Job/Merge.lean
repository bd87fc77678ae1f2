import PageMerge.Config.Settings
import PageMerge.Job.Status
import PageMerge.Run.Result

/-!
# Merge jobs

A run in the background, cut into steps so that other things can happen between them: first the
preparation, then for each row its start and its upload, at last what is done after the upload. A
cancellation takes effect before the start of a row; a row that was started is finished.

The configuration file is read anew for every job. If the program stops in the middle of a job, only
the job ends, and has failed.

## Main definitions

* `JobSetting`: what all jobs share
* `Phase`: where a job stands
* `Phase.work`, `Phase.step`: what is done in the next step of a job, and the step itself
* `Phase.remaining`: how many steps are left after the preparation
-/

namespace PageMerge.Job

open PageMerge.Config (Account Settings)
open PageMerge.Data (DataSet)
open PageMerge.Files (Path)
open PageMerge.Upload (Plan RowOutcome)
open PageMerge.Wiki (Article CallError WikiAccess)
open Workspace

/-- What all jobs share. -/
structure JobSetting (σ : Type) where
  config : Path
  account : Account
  /-- Every job has a directory of its own below this one. -/
  artifacts : Path
  /-- The wiki of the settings, unless there is no way to it. -/
  client (settings : Settings) : Except CallError (WikiAccess σ)
  /-- What is said of the task of a job if the program stops in it with a message. -/
  taskError (id message : String) : String

/-- A run whose articles are being uploaded. -/
structure OpenRun (σ : Type) where
  client : WikiAccess σ
  plan : Plan
  paths : RunFiles
  data : DataSet
  /-- The number of articles. -/
  total : Nat
  /-- The outcomes of the articles that are done. -/
  outcomes : List RowOutcome
  /-- The articles that are not started. -/
  rest : List Article

/-- Where a job stands. -/
inductive Phase (σ : Type) where
  /-- Before everything, with a path of article data in place of the configured one. -/
  | created (data : Option Path)
  /-- No row is started. -/
  | betweenRows (run : OpenRun σ)
  /-- The row of an article is started. -/
  | inRow (run : OpenRun σ) (article : Article)
  | ended (status : Status)

/-- The status of a job that an error stops. -/
def Status.ofError (error : RunFault) : Status :=
  if error.isRefusal then .rejected error.messages else .failed error.message

variable {σ : Type}

/-- The status of a job in which the program stops with a message. -/
def Status.ofStop (setting : JobSetting σ) (id message : String) : Status :=
  .failed s!"Task join error: {setting.taskError id message}"

/-! ### Preparation -/

/-- An error stops a job before its upload. -/
def stopWith (id : String) (error : RunFault) : Activity (Workspace σ) (Phase σ) := do
  Activity.log (Log.error s!"Merge job {id} stopped:")
  Activity.logAll error.entries
  pure (.ended (.ofError error))

/-- The upload of a prepared run. -/
def openRun (settings : Settings) (client : WikiAccess σ) (paths : RunFiles)
    (prepared : ReadyRun) : OpenRun σ where
  client := client
  plan := uploadPlan settings
  paths := paths
  data := prepared.data
  total := prepared.articles.length
  outcomes := []
  rest := prepared.articles

/-- Prepares a run; a run that cannot be prepared gets a report. -/
def prepareJob (id : String) (settings : Settings) (client : WikiAccess σ) (paths : RunFiles) :
    Activity (Workspace σ) (Phase σ) := do
  match ← (prepare settings client paths).run with
  | .ok prepared => pure (.betweenRows (openRun settings client paths prepared))
  | .error error => do
    recordRejected paths error
    stopWith id error

/-- Reads the configuration and prepares the run. -/
def begin (setting : JobSetting σ) (id : String) (data : Option Path) :
    Activity (Workspace σ) (Phase σ) := do
  Activity.report (.progress 0 0)
  Activity.log (Log.info s!"Starting merge job {id}")
  let space ← Activity.state
  match Config.load space.files setting.config setting.account data with
  | .error .aborted => pure (.ended (.ofStop setting id Config.Failure.abortMessage))
  | .error (.refused error) => stopWith id (.config error)
  | .ok settings =>
    match setting.client settings with
    | .error error => stopWith id (.templateDownload settings.templateId error)
    | .ok client => prepareJob id settings client (.ofJob setting.artifacts id)

/-! ### Upload -/

/-- Uploads the article of a row that was started. -/
def finishRow (run : OpenRun σ) (article : Article) : Activity (Workspace σ) (OpenRun σ) := do
  let row ← onWiki (Upload.attempt run.client run.plan run.outcomes.length run.total article)
  pure { run with outcomes := run.outcomes ++ [row] }

/-- Gives up the rows that are not started. -/
def OpenRun.abandon (run : OpenRun σ) : OpenRun σ :=
  { run with
    outcomes := run.outcomes ++ run.rest.map fun article => Upload.outcomeOf article .notAttempted
    rest := [] }

/-- The status after the upload, and what the log says about it. -/
def settle (id : String) (report : RunResult) : Status × List Log.Entry :=
  match report.unwritten with
  | [] => (.completed report.summary, [Log.info s!"Merge job {id} finished"])
  | first :: others =>
    (.ofError first,
      Log.error s!"Merge job {id} uploaded its articles but could not record them:" ::
        (first :: others).flatMap RunFault.entries)

/-- What is done after the upload. -/
def finishJob (id : String) (run : OpenRun σ) : Activity (Workspace σ) (Phase σ) := do
  let report ← conclude run.paths run.data run.outcomes
  let (status, entries) := settle id report
  Activity.logAll entries
  pure (.ended status)

/-- A part of a job: if the program stops in it, the job ends. -/
def guarded (setting : JobSetting σ) (id : String) (act : Activity (Workspace σ) (Phase σ)) :
    Activity (Workspace σ) (Phase σ) := do
  match ← act.caught with
  | .ok phase => pure phase
  | .error message => pure (.ended (.ofStop setting id message))

namespace Phase

/-- What is done in the next step of a job, given whether it was cancelled. -/
def work (setting : JobSetting σ) (id : String) (cancelled : Bool) :
    Phase σ → Activity (Workspace σ) (Phase σ)
  | .created data => begin setting id data
  | .betweenRows run =>
    match run.rest with
    | [] => finishJob id run
    | article :: rest =>
      if cancelled then finishJob id run.abandon else pure (.inRow { run with rest } article)
  | .inRow run article => return .betweenRows (← finishRow run article)
  | .ended status => pure (.ended status)

/-- The next step of a job, given whether it was cancelled. -/
def step (setting : JobSetting σ) (id : String) (cancelled : Bool) (phase : Phase σ) :
    Activity (Workspace σ) (Phase σ) :=
  guarded setting id (phase.work setting id cancelled)

/-- How many steps are left, at most; it is not known before the preparation. -/
def remaining : Phase σ → Nat
  | .created _ => 1
  | .betweenRows run => 2 * run.rest.length + 1
  | .inRow run _ => 2 * run.rest.length + 2
  | .ended _ => 0

/-- The status with which a job stopped. -/
def status? : Phase σ → Option Status
  | .ended status => some status
  | _ => none

/-- The article of a row that was started. -/
def article? : Phase σ → Option Article
  | .inRow _ article => some article
  | _ => none

end Phase

end PageMerge.Job
