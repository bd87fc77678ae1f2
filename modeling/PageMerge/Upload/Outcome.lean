import PageMerge.Json.Value

/-!
# Outcomes

How the rows of a run end, and how many of them end in which way. A row that failed or was not
attempted needs another run.

## Main definitions

* `Outcome`, `RowOutcome`: how a row ends
* `Tally`: how many rows end in which way
* `Outcome.toJson`, `Outcome.ofJson?`: outcomes as JSON
-/

namespace PageMerge.Upload

/-- The call that failed. -/
inductive FailedCall where
  | existenceCheck
  | create
  | update
  deriving DecidableEq, Repr

/-- The name of a stage. -/
def FailedCall.name : FailedCall → String
  | .existenceCheck => "ExistenceCheck"
  | .create => "Create"
  | .update => "Update"

/-- The stage of a name. -/
def FailedCall.ofName? (name : String) : Option FailedCall :=
  if name = "ExistenceCheck" then some .existenceCheck
  else if name = "Create" then some .create
  else if name = "Update" then some .update
  else none

/-- How the upload of a row ends. -/
inductive Outcome where
  /-- There was no page with the title, and a new one was created. -/
  | created
  /-- There was a page with the title, and it was overwritten. -/
  | updated
  /-- There was a page with the title, and it was left as it is. -/
  | skippedExisting
  /-- A call to the wiki failed. -/
  | failed (stage : FailedCall) (message : String)
  /-- The run was cancelled before the row was started. -/
  | notAttempted
  deriving DecidableEq, Repr

/-- The row must be uploaded in a later run. -/
def Outcome.needsRetry : Outcome → Bool
  | .failed .. => true
  | .notAttempted => true
  | _ => false

/-- How a row ends, with its identifier and title. -/
structure RowOutcome where
  rowId : String
  title : String
  outcome : Outcome
  deriving DecidableEq, Repr

/-- How many rows end in which way. -/
structure Tally where
  total : Nat
  created : Nat
  updated : Nat
  skippedExisting : Nat
  failed : Nat
  notAttempted : Nat
  /-- Where the rows that need another run were written. -/
  ledgerPath : Option String
  deriving DecidableEq, Repr

namespace Tally

/-- A row ended with a failed call. -/
def isFailed : Outcome → Bool
  | .failed .. => true
  | _ => false

/-- The summary of the outcomes, before a ledger is written. -/
def ofOutcomes (rows : List RowOutcome) : Tally where
  total := rows.length
  created := rows.countP (·.outcome == .created)
  updated := rows.countP (·.outcome == .updated)
  skippedExisting := rows.countP (·.outcome == .skippedExisting)
  failed := rows.countP fun row => isFailed row.outcome
  notAttempted := rows.countP (·.outcome == .notAttempted)
  ledgerPath := none

/-- The number of rows that need another run. -/
def retryCount (summary : Tally) : Nat := summary.failed + summary.notAttempted

end Tally

/-! ### JSON -/

open PageMerge.Json (Value)

/-- The name of a case that an enumeration value has: a text, or the only member of an object that
holds null. -/
def caseName? : Value → Option String
  | .text name => some name
  | .object [(name, .null)] => some name
  | _ => none

/-- The value of the only member of an object, if it has the given name. -/
def caseContent? (name : String) : Value → Option Value
  | .object [(key, value)] => if key = name then some value else none
  | _ => none

/-- The members of an object with the given names, or the items of a list of as many. -/
def fields? (names : List String) (value : Value) : Option (List Value) :=
  match value with
  | .object _ => names.mapM fun name => value.member? name
  | .array items => if items.length = names.length then some items else none
  | _ => none

/-- A stage as JSON. -/
def FailedCall.toJson (stage : FailedCall) : Value := .text stage.name

/-- The stage that a JSON value stands for. -/
def FailedCall.ofJson? (value : Value) : Option FailedCall := (caseName? value).bind ofName?

namespace Outcome

/-- An outcome as JSON. -/
def toJson : Outcome → Value
  | .created => .text "Created"
  | .updated => .text "Updated"
  | .skippedExisting => .text "SkippedExisting"
  | .failed stage message =>
    .object [("Failed", .object [("stage", stage.toJson), ("message", .text message)])]
  | .notAttempted => .text "NotAttempted"

/-- The outcome of a name. -/
def ofName? (name : String) : Option Outcome :=
  if name = "Created" then some .created
  else if name = "Updated" then some .updated
  else if name = "SkippedExisting" then some .skippedExisting
  else if name = "NotAttempted" then some .notAttempted
  else none

/-- The failure that the content of its case stands for. -/
def failedOfJson? (content : Value) : Option Outcome := do
  let stage ← FailedCall.ofJson? (← content.member? "stage")
  let message ← (← content.member? "message").text?
  some (.failed stage message)

/-- The outcome that a JSON value stands for. -/
def ofJson? (value : Value) : Option Outcome :=
  match caseContent? "Failed" value with
  | some content => failedOfJson? content
  | none => (caseName? value).bind ofName?

end Outcome

namespace RowOutcome

/-- A row with its outcome as JSON. -/
def toJson (row : RowOutcome) : Value :=
  .object [("row_id", .text row.rowId), ("title", .text row.title),
    ("outcome", row.outcome.toJson)]

/-- The row with its outcome that a JSON value stands for. -/
def ofJson? (value : Value) : Option RowOutcome := do
  match ← fields? ["row_id", "title", "outcome"] value with
  | [rowId, title, outcome] =>
    some ⟨← rowId.text?, ← title.text?, ← Outcome.ofJson? outcome⟩
  | _ => none

end RowOutcome

namespace Tally

/-- A summary as JSON. -/
def toJson (summary : Tally) : Value :=
  .object [("total", .nat summary.total), ("created", .nat summary.created),
    ("updated", .nat summary.updated), ("skipped_existing", .nat summary.skippedExisting),
    ("failed", .nat summary.failed), ("not_attempted", .nat summary.notAttempted),
    ("ledger_path", .optionalText summary.ledgerPath)]

/-- The text that a value is, unless it is null. -/
def optionalText? : Value → Option (Option String)
  | .null => some none
  | value => value.text?.map some

/-- The summary that a JSON value stands for; the place of the ledger may be missing. -/
def ofJson? (value : Value) : Option Tally := do
  let count := fun (name : String) => (value.member? name).bind Value.nat64?
  some {
    total := ← count "total"
    created := ← count "created"
    updated := ← count "updated"
    skippedExisting := ← count "skipped_existing"
    failed := ← count "failed"
    notAttempted := ← count "not_attempted"
    ledgerPath := ← optionalText? ((value.member? "ledger_path").getD .null) }

end Tally

end PageMerge.Upload
