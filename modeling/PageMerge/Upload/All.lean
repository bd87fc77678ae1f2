import PageMerge.Upload.Row

/-!
# Uploading all rows

The articles of a run are uploaded one after the other. A row that fails does not stop the others.
A run can be cancelled: rows that are not started by then are not attempted.

The moment of a cancellation is given by the number of rows that are done by then, zero if the run
is cancelled before it starts. Only the start of a row depends on it, so that a cancellation in the
middle of a row has the same effect as one at its end.

## Main definitions

* `uploadBatch`: the outcomes of all articles
* `uploadFrom`: the same for the articles after those that are done
-/

namespace PageMerge.Upload

open PageMerge.Wiki (Article WikiAccess)

variable {σ : Type}

/-- A number of done rows after which the run is cancelled, if it is. -/
abbrev CancelAfter := Option Nat

/-- The run is cancelled once so many rows are done. -/
def isCancelled (cancel : CancelAfter) (done : Nat) : Bool :=
  match cancel with
  | none => false
  | some limit => limit ≤ done

/-- The outcome of an article with its row. -/
def outcomeOf (article : Article) (outcome : Outcome) : RowOutcome :=
  ⟨article.rowId, article.title, outcome⟩

/-- Uploads an article and reports the progress. -/
def attempt (client : WikiAccess σ) (plan : Plan) (done total : Nat) (article : Article) :
    Activity σ RowOutcome := do
  let outcome ← uploadArticle client article plan
  Activity.report (.progress (done + 1) total)
  pure (outcomeOf article outcome)

/-- Uploads the articles after the first `done` ones of `total`, all of them if the run is not
cancelled. -/
def uploadFrom (client : WikiAccess σ) (plan : Plan) (cancel : CancelAfter)
    (total : Nat) : (done : Nat) → List Article → Activity σ (List RowOutcome)
  | _, [] => pure []
  | done, article :: rest =>
    if isCancelled cancel done then
      pure ((article :: rest).map fun article => outcomeOf article .notAttempted)
    else do
      let row ← attempt client plan done total article
      let rows ← uploadFrom client plan cancel total (done + 1) rest
      pure (row :: rows)

/-- Uploads all articles, unless the run is cancelled. -/
def uploadBatch (client : WikiAccess σ) (plan : Plan) (cancel : CancelAfter)
    (articles : List Article) : Activity σ (List RowOutcome) :=
  uploadFrom client plan cancel articles.length 0 articles

end PageMerge.Upload
