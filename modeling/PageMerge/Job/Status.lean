import PageMerge.Upload.Outcome

/-!
# The status of a job

A job is a run in the background. Its status is what can be asked for while it goes on and after it
has stopped.

## Main definitions

* `Status`: how far a job has come, or how it stopped
* `Status.hasStopped`: the job has stopped
* `Status.toJson`, `Status.ofJson?`: a status as JSON
* `percent`: progress as a percentage
-/

namespace PageMerge.Job

open PageMerge.Json (Value)
open PageMerge.Upload (Tally)

/-- How far a job has come, or how it stopped. -/
inductive Status where
  | pending
  /-- The percentage of rows that are done. -/
  | inProgress (percent : Nat)
  /-- The articles were uploaded and the results recorded. -/
  | completed (summary : Tally)
  /-- Configuration, data or template were refused, and nothing was uploaded. -/
  | rejected (messages : List String)
  | failed (message : String)
  deriving DecidableEq, Repr

namespace Status

/-- The job has stopped. -/
def hasStopped : Status → Bool
  | .pending => false
  | .inProgress _ => false
  | .completed _ => true
  | .rejected _ => true
  | .failed _ => true

/-- A status as JSON. -/
def toJson : Status → Value
  | .pending => .text "Pending"
  | .inProgress percent => .object [("InProgress", .nat percent)]
  | .completed summary => .object [("Completed", summary.toJson)]
  | .rejected messages => .object [("Rejected", .array (messages.map .text))]
  | .failed message => .object [("Failed", .text message)]

/-- The status that a case with a value stands for. -/
def ofCase? : String × Value → Option Status
  | ("InProgress", value) => value.nat64?.map .inProgress
  | ("Completed", value) => (Tally.ofJson? value).map .completed
  | ("Rejected", value) => (value.items?.bind (List.mapM Value.text?)).map .rejected
  | ("Failed", value) => value.text?.map .failed
  | _ => none

/-- The status that a JSON value stands for. -/
def ofJson? : Value → Option Status
  | .text "Pending" => some .pending
  | .object [case] => ofCase? case
  | _ => none

end Status

/-- The percentage of rows that are done, rounded down from a number of single precision; zero if
there are no rows. -/
def percent (done total : Nat) : Nat :=
  if total = 0 then 0
  else (Float32.ofNat done / Float32.ofNat total * 100).toUInt32.toNat

end PageMerge.Job
