import PageMerge.Job.Merge
import PageMerge.Job.Registry

/-!
# Jobs side by side

The jobs of a server work in one workspace, one step of one job after another, in any order. What a
step reports about the progress of its job goes to the registry, from where everyone can learn it;
the same holds for the status with which a job stops.

## Main definitions

* `Server`: workspace, registry and jobs
* `Server.start`: a new job
* `Server.step`: the next step of a job
* `Server.runUntil`, `Server.runAll`: the steps of one job or several up to some point
-/

namespace PageMerge.Job

open PageMerge.Files (Path)

/-- A job that was started. -/
structure RunningJob (σ : Type) where
  token : Token
  phase : Phase σ

/-- The workspace of a server, the registry and the jobs. -/
structure Server (σ : Type) where
  space : Workspace σ
  registry : Registry
  jobs : List (JobId × RunningJob σ)

/-- The status that an event stands for. -/
def progressStatus? : Event → Option Status
  | .progress done total => some (.inProgress (percent done total))
  | .log _ => none

namespace Server

variable {σ : Type}

/-- A server without jobs. -/
def ofWorkspace (space : Workspace σ) : Server σ := ⟨space, .empty, []⟩

/-- A new job, which waits for its start. -/
def start (server : Server σ) (id : JobId) (data : Option Path) : Server σ :=
  let (token, registry) := server.registry.register id
  { server with registry, jobs := assign server.jobs id ⟨token, .created data⟩ }

/-- The statuses that a job passes through in a step: its progress, and its end if it comes to
it. -/
def passed (before : Phase σ) (result : Result (Workspace σ) (Phase σ)) : List Status :=
  result.events.filterMap progressStatus? ++
    match before.status?, result.value.status? with
    | none, some status => [status]
    | _, _ => []

/-- The next step of a job. It never stops the program, since the job takes up the stop. -/
def step (setting : JobSetting σ) (id : JobId) : Activity (Server σ) Unit where
  run server :=
    match server.jobs.lookup id with
    | none => ⟨(), server, []⟩
    | some job =>
      let cancelled := server.registry.isCancelled job.token
      let result := (job.phase.step setting id cancelled).run server.space
      let registry := (passed job.phase result).foldl (fun r status => r.update id status)
        server.registry
      let jobs := assign server.jobs id { job with phase := result.value }
      ⟨(), ⟨result.state, registry, jobs⟩, result.log.map .log⟩
  stop? _ := none

/-- Where a job stands. -/
def phase? (server : Server σ) (id : JobId) : Option (Phase σ) :=
  (server.jobs.lookup id).map RunningJob.phase

/-- At most so many steps of a job, as long as it does not stand where it is to wait. -/
def runFor (setting : JobSetting σ) (waits : Phase σ → Bool) (id : JobId) :
    Nat → Activity (Server σ) Unit
  | 0 => pure ()
  | count + 1 => do
    let server ← Activity.state
    if (server.phase? id).any waits then pure ()
    else do
      step setting id
      runFor setting waits id count

/-- The steps of a job until it stops or stands where it is to wait. -/
def runUntil (setting : JobSetting σ) (waits : Phase σ → Bool) (id : JobId) :
    Activity (Server σ) Unit := do
  runFor setting waits id 1
  let server ← Activity.state
  runFor setting waits id ((server.phase? id).elim 0 Phase.remaining)

/-- The steps of jobs, one job after the other, until they stop or stand where they are to wait. -/
def runAll (setting : JobSetting σ) (waits : Phase σ → Bool) (ids : List JobId) :
    Activity (Server σ) Unit :=
  ids.forM (runUntil setting waits)

end Server

end PageMerge.Job
