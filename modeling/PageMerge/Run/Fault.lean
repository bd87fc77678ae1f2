import PageMerge.Batch
import PageMerge.Config.Problem
import PageMerge.Data.Ledger
import PageMerge.Log

/-!
# Faults of a run

What keeps a run from taking place, or its files from being written. A row that cannot be uploaded
is no fault of the run.

## Main definitions

* `RunFault`: what went wrong, with `RunFault.messages` for the log
-/

namespace PageMerge

open PageMerge.Files (IoError Path)

/-- What keeps a run from taking place, or its files from being written. -/
inductive RunFault where
  | config (error : Config.ConfigProblem)
  | data (error : Data.LoadError)
  | templateDownload (templateId : String) (cause : Wiki.CallError)
  | templateProcessing (templateId : String) (cause : Wiki.CallError)
  | grammar (error : TemplateProblem)
  | validation (report : Batch.Refusal)
  | ledger (error : Data.UnwrittenLedger)
  | artifact (path : Path) (cause : IoError)
  deriving DecidableEq, Repr

namespace RunFault

/-- The number that stands for the error in the log. -/
def id : RunFault → Nat
  | .config error => error.id
  | .data error => error.id
  | .templateDownload .. => 5
  | .templateProcessing .. => 36
  | .grammar _ => TemplateProblem.id
  | .validation _ => Batch.Refusal.id
  | .ledger _ => 0
  | .artifact .. => 0

/-- The run was refused because of what it was given. -/
def isRefusal : RunFault → Bool
  | .config _ => true
  | .data _ => true
  | .templateProcessing .. => true
  | .grammar _ => true
  | .validation _ => true
  | _ => false

/-- The wording of the error. -/
def message : RunFault → String
  | .config error => error.message
  | .data error => error.message
  | .templateDownload id cause =>
    s!"Downloading the template with ID '{id}' failed: {cause.message}"
  | .templateProcessing id cause =>
    s!"Processing the template with ID '{id}' failed: {cause.message}"
  | .grammar error => error.message
  | .validation report => report.message
  | .ledger error => error.message
  | .artifact path cause => s!"Writing '{path.text}' failed: {cause.message}"

/-- A message with the number of the error before it. -/
def numbered (error : RunFault) (message : String) : String := s!"[E{error.id}] {message}"

/-- What the log says about the error, in one message or several. -/
def messages (error : RunFault) : List String :=
  match error with
  | .validation report => report.messages ++ [error.numbered report.message]
  | .grammar malformed => malformed.messages.map error.numbered
  | error => [error.numbered error.message]

/-- The entries of the log about the error. -/
def entries (error : RunFault) : List Log.Entry := error.messages.map Log.error

end RunFault

end PageMerge
