import PageMerge.Job.Registry

/-!
# Messages between jobs and the registry

The run of a job works on its own and sends what it reports through a channel of the job. A listener
of the job takes the reports from there, one at a time, and forwards them into a queue that all jobs
share. The final status of the job follows them into the queue once the run has ended and the
listener has forwarded everything. A single updater takes the updates out of the queue in their
order and applies them to the registry, each in two steps. Meanwhile jobs are registered and
cancelled; a cancellation looks for the token of the job first, and then, if there is none, for the
job.

All of this happens in any order. A schedule is a list of moves, each of which is one step of one of
the parties. A move that is not possible does nothing. A name is given to one job only, and nobody
knows it before the job is registered.

## Main definitions

* `Line`: what has come from a job, and how far it has got on its way to the queue
* `Exchange`: the registry, the jobs, the queue and the updater
* `Move`, `Exchange.take`, `Exchange.takeAll`: what can happen next, and a whole schedule
* `Exchange.answer?`: what a cancellation is told by a move

## Main results

* `Registry.cancel_eq`: a cancellation without anything in between
-/

namespace PageMerge.Job

/-! ### Cancellations in two steps -/

namespace Registry

/-- Tells a job to stop, if its token is there. -/
def reach (registry : Registry) (id : JobId) : Option CancelAnswer × Registry :=
  match registry.token? id with
  | some token => (some .requested, { registry with cancelled := token :: registry.cancelled })
  | none => (none, registry)

/-- What a cancellation is told that has found no token. -/
def look (registry : Registry) (id : JobId) : CancelAnswer :=
  if (registry.status? id).isSome then .alreadyFinished else .unknownJob

/-- A cancellation looks for the token first, and then for the job. -/
theorem cancel_eq (registry : Registry) (id : JobId) : registry.cancel id =
    ((registry.reach id).1.getD (registry.look id), (registry.reach id).2) := by
  rw [cancel, reach, look]
  cases registry.token? id with
  | some token => rfl
  | none =>
    dsimp only
    split <;> rfl

end Registry

/-! ### One job -/

/-- How far a job has come. -/
inductive Stage where
  /-- The run goes on. -/
  | running
  /-- The run has ended, and the final status is not in the queue yet. -/
  | ended (status : Status)
  /-- The final status was put into the queue. -/
  | announced (status : Status)
  deriving DecidableEq, Repr

/-- The status with which the run has ended. -/
def Stage.final? : Stage → Option Status
  | .running => none
  | .ended status => some status
  | .announced status => some status

/-- The final status, as long as it is not in the queue. -/
def Stage.unannounced? : Stage → Option Status
  | .ended status => some status
  | _ => none

/-- What has come from a job. -/
structure Line where
  token : Token
  /-- All percentages that the run has reported, for the record. -/
  reports : List Nat
  /-- The percentages on their way to the listener. -/
  channel : List Nat
  /-- The percentage that the listener has taken and not forwarded yet. -/
  held : Option Nat
  stage : Stage
  deriving DecidableEq, Repr

namespace Line

/-- The line of a new job. -/
def opened (token : Token) : Line := ⟨token, [], [], none, .running⟩

/-- The run reports a percentage. -/
def report (percent : Nat) (line : Line) : Option Line :=
  match line.stage with
  | .running => some { line with
      reports := line.reports ++ [percent], channel := line.channel ++ [percent] }
  | _ => none

/-- The run ends with a final status. -/
def finish (status : Status) (line : Line) : Option Line :=
  match line.stage with
  | .running => if status.hasStopped then some { line with stage := .ended status } else none
  | _ => none

/-- The listener takes the next percentage. -/
def hear (line : Line) : Option Line :=
  match line.held, line.channel with
  | none, percent :: rest => some { line with held := some percent, channel := rest }
  | _, _ => none

/-- The listener forwards the percentage that it holds. -/
def forward (line : Line) : Option (Status × Line) :=
  line.held.map fun percent => (.inProgress percent, { line with held := none })

/-- The final status follows when the listener has nothing left. -/
def announce (line : Line) : Option (Status × Line) :=
  match line.stage, line.held, line.channel with
  | .ended status, none, [] => some (status, { line with stage := .announced status })
  | _, _, _ => none

/-- All statuses that the job has passed through so far, in their order. -/
def sent (line : Line) : List Status :=
  line.reports.map .inProgress ++ line.stage.final?.toList

/-- Those of them that are not in the queue yet. -/
def unsent (line : Line) : List Status :=
  (line.held.toList ++ line.channel).map .inProgress ++ line.stage.unannounced?.toList

end Line

/-! ### All jobs -/

/-- The registry and everything that is on its way to it. -/
structure Exchange where
  registry : Registry
  lines : List (JobId × Line)
  /-- The updates of all jobs, the first of them to be applied next. -/
  queue : List (JobId × Status)
  /-- An update that is being applied: the job is closed if the status is final, and the status is
  not stored yet. -/
  applying : Option (JobId × Status)
  /-- The updates that were applied, in their order. -/
  applied : List (JobId × Status)
  /-- The cancellations that have found no token and have yet to look for their jobs. -/
  asking : List JobId

/-- What can happen next. -/
inductive Move where
  /-- A new job is registered. -/
  | register (id : JobId)
  /-- The run of a job reports a percentage. -/
  | report (id : JobId) (percent : Nat)
  /-- The run of a job ends. -/
  | finish (id : JobId) (status : Status)
  /-- The listener of a job takes a percentage. -/
  | hear (id : JobId)
  /-- The listener of a job forwards the percentage that it holds. -/
  | forward (id : JobId)
  /-- The final status of a job is put into the queue. -/
  | announce (id : JobId)
  /-- The updater takes the next update, and closes its job if the status is final. -/
  | begin
  /-- The updater stores the status. -/
  | store
  /-- A cancellation looks for the token of a job. -/
  | seek (id : JobId)
  /-- A cancellation that has found no token looks for the job. -/
  | look (id : JobId)
  deriving DecidableEq, Repr

/-- The statuses of one job among updates. -/
def updatesOf (id : JobId) (updates : List (JobId × Status)) : List Status :=
  updates.filterMap fun (other, status) => if other = id then some status else none

namespace Exchange

/-- Before any job is registered. -/
def opened : Exchange := ⟨.empty, [], [], none, [], []⟩

/-- The line of a job that was registered. -/
def line? (exchange : Exchange) (id : JobId) : Option Line := exchange.lines.lookup id

/-- All updates that were put into the queue so far, in their order. -/
def updates (exchange : Exchange) : List (JobId × Status) :=
  exchange.applied ++ exchange.applying.toList ++ exchange.queue

/-- The statuses of a job that were applied. -/
def stored (exchange : Exchange) (id : JobId) : List Status := updatesOf id exchange.applied

/-- The statuses of a job that were applied, or have begun to be. -/
def begun (exchange : Exchange) (id : JobId) : List Status :=
  updatesOf id (exchange.applied ++ exchange.applying.toList)

/-! ### Moves -/

/-- A new job, unless the name is known. -/
def register (id : JobId) (exchange : Exchange) : Exchange :=
  if (exchange.line? id).isSome ∨ id ∈ exchange.asking then exchange
  else
    let (token, registry) := exchange.registry.register id
    { exchange with registry, lines := assign exchange.lines id (.opened token) }

/-- A move on the line of a job. -/
def onLine (id : JobId) (step : Line → Option Line) (exchange : Exchange) : Exchange :=
  match (exchange.line? id).bind step with
  | some line => { exchange with lines := assign exchange.lines id line }
  | none => exchange

/-- A move that puts a status of a job into the queue. -/
def enqueue (id : JobId) (step : Line → Option (Status × Line)) (exchange : Exchange) :
    Exchange :=
  match (exchange.line? id).bind step with
  | some (status, line) =>
    { exchange with
      lines := assign exchange.lines id line, queue := exchange.queue ++ [(id, status)] }
  | none => exchange

/-- The updater takes the next update. -/
def begin (exchange : Exchange) : Exchange :=
  match exchange.applying, exchange.queue with
  | none, (id, status) :: rest =>
    { exchange with
      registry := exchange.registry.release id status, queue := rest
      applying := some (id, status) }
  | _, _ => exchange

/-- The updater stores the status that it is applying. -/
def store (exchange : Exchange) : Exchange :=
  match exchange.applying with
  | some (id, status) =>
    { exchange with
      registry := exchange.registry.record id status, applying := none
      applied := exchange.applied ++ [(id, status)] }
  | none => exchange

/-- A cancellation looks for the token of a job. -/
def seek (id : JobId) (exchange : Exchange) : Exchange :=
  match exchange.registry.reach id with
  | (some _, registry) => { exchange with registry }
  | (none, _) => { exchange with asking := id :: exchange.asking }

/-- A cancellation looks for a job. -/
def look (id : JobId) (exchange : Exchange) : Exchange :=
  { exchange with asking := exchange.asking.erase id }

/-- The next thing that happens. -/
def take : Move → Exchange → Exchange
  | .register id => register id
  | .report id percent => onLine id (Line.report percent)
  | .finish id status => onLine id (Line.finish status)
  | .hear id => onLine id Line.hear
  | .forward id => enqueue id Line.forward
  | .announce id => enqueue id Line.announce
  | .begin => begin
  | .store => store
  | .seek id => seek id
  | .look id => look id

/-- What happens, one after the other. -/
def takeAll (moves : List Move) (exchange : Exchange) : Exchange :=
  moves.foldl (fun exchange move => take move exchange) exchange

/-- What a cancellation is told by the move, if it is told something. -/
def answer? (exchange : Exchange) : Move → Option CancelAnswer
  | .seek id => (exchange.registry.reach id).1
  | .look id => if id ∈ exchange.asking then some (exchange.registry.look id) else none
  | _ => none

end Exchange

end PageMerge.Job
