import PageMerge.Api.Route
import PageMerge.Api.StartRequest
import PageMerge.Job.Server

/-!
# Answering requests

Jobs are started, asked for their status and cancelled by requests. A request is answered at once:
what a job does happens later, in its own steps.

## Main definitions

* `Request`, `Response`: what is asked and answered
* `handle`: the answer to a request
-/

namespace PageMerge.Api

open PageMerge.Job (JobId Server)
open PageMerge.Json (Value)

/-- What is asked. -/
structure Request where
  method : String
  /-- Path and query. -/
  target : String
  media : Option String
  body : String

/-- What a response says. -/
inductive Content where
  | json (value : Value)
  | text (text : String)

/-- What is answered. -/
structure Response where
  status : Nat
  content : Content

namespace Response

/-- A JSON value. -/
def ok (value : Value) : Response := ⟨200, .json value⟩

/-- There is no such job. -/
def unknownJob : Response := ⟨404, .text "Job ID not found"⟩

/-- There is nothing at that path, or not with that method. -/
def notFound : Response := ⟨404, .text ""⟩

/-- A new job. -/
def started (id : JobId) : Response := ok (.object [("job_id", .text id)])

/-- Whether a job was told to stop. -/
def cancelled (id : JobId) (told : Bool) : Response :=
  ok (.object [("job_id", .text id), ("cancelled", .bool told)])

end Response

variable {σ : Type}

/-- Starts a job under a name that no job has. -/
def start (fresh : JobId) (request : StartRequest) : Activity (Server σ) Response :=
  Activity.silent fun server => (.started fresh, server.start fresh request.data)

/-- The status of a job. -/
def status (id : JobId) : Activity (Server σ) Response := do
  let server ← Activity.state
  match server.registry.status? id with
  | some status => pure (.ok status.toJson)
  | none => pure .unknownJob

/-- Tells a job to stop. -/
def cancel (id : JobId) : Activity (Server σ) Response := do
  let outcome ← Activity.silent fun server =>
    let (outcome, registry) := server.registry.cancel id
    (outcome, { server with registry })
  match outcome with
  | .requested => do
    Activity.log (Log.info s!"Cancellation requested for merge job {id}")
    pure (.cancelled id true)
  | .alreadyFinished => pure (.cancelled id false)
  | .unknownJob => pure .unknownJob

/-- The answer to a request, given a name for a new job. -/
def handle (fresh : JobId) (request : Request) : Activity (Server σ) Response :=
  match Route.of? request.method request.target with
  | some .start => start fresh (.ofBody request.media request.body)
  | some (.status id) => status id
  | some (.cancel id) => cancel id
  | none => pure .notFound

end PageMerge.Api
