import PageMerge.Upload.Outcome
import PageMerge.Wiki.Client

/-!
# Uploading a row

The upload of one article takes at most two calls: the page of its title is looked up, and then it
is created, overwritten or left as it is. A call that fails ends the row.

## Main definitions

* `Plan`: where and how articles are uploaded
* `RowProgress`, `RowProgress.next`: one call after the other
* `uploadArticle`: all calls of a row

## Main results

* `run_uploadArticle`: two steps always end a row, and they do what `uploadArticle` does
-/

namespace PageMerge.Upload

open PageMerge.Wiki (Article CallError PageVersion WikiAccess)

/-- Where and how articles are uploaded. -/
structure Plan where
  space : String
  parentPageId : Option String
  overwriteExisting : Bool
  workers : Nat
  deriving DecidableEq, Repr

/-- How far the upload of a row has come. -/
inductive RowProgress where
  | pending
  /-- The page with the title was looked up. -/
  | existenceChecked (found : Option PageVersion)
  | done (outcome : Outcome)
  deriving DecidableEq, Repr

/-! ### Entries of the log -/

/-- The existence check failed. -/
def checkFailed (article : Article) (error : CallError) : Log.Entry :=
  Log.error (s!"[E6] Checking whether the article '{article.title}' (ID '{article.rowId}') " ++
    s!"exists failed: {error.message}")

/-- The page was created. -/
def createdNotice (article : Article) : Log.Entry :=
  Log.info (s!"Successfully uploaded the article generated from the article data " ++
    s!"'{article.rowId}'")

/-- The page was not created. -/
def createFailed (article : Article) (error : CallError) : Log.Entry :=
  Log.error (s!"[E7] Uploading the article generated from the article data '{article.rowId}' " ++
    s!"failed: {error.message}")

/-- The page is left as it is. -/
def unchangedNotice (article : Article) : Log.Entry :=
  Log.info s!"A page with the title '{article.title}' already exists and is left unchanged"

/-- The page will be overwritten. -/
def overwriteNotice (article : Article) : Log.Entry :=
  Log.info s!"A page with the title '{article.title}' already exists - it will be overwritten"

/-- The page was not overwritten. -/
def updateFailed (article : Article) (page : PageVersion) (error : CallError) : Log.Entry :=
  Log.error (s!"[E8] Updating the page '{page.id}' with the article data '{article.rowId}' " ++
    s!"failed: {error.message}")

/-! ### Calls -/

variable {σ : Type}

/-- The row ends with a failed call. -/
def fail (stage : FailedCall) (notice : Log.Entry) (error : CallError) :
    Activity σ Outcome := do
  Activity.log notice
  pure (.failed stage error.message)

/-- Looks up the page of the title; a failed call ends the row. -/
def lookUp (client : WikiAccess σ) (article : Article) (plan : Plan) :
    Activity σ (Except Outcome (Option PageVersion)) := do
  match ← client.findPage article.title plan.space with
  | .ok found => pure (.ok found)
  | .error e => return .error (← fail .existenceCheck (checkFailed article e) e)

/-- Creates a page. -/
def createPage (client : WikiAccess σ) (article : Article) (plan : Plan) :
    Activity σ Outcome := do
  match ← client.create article plan.space plan.parentPageId with
  | .ok () => do
    Activity.log (createdNotice article)
    pure .created
  | .error e => fail .create (createFailed article e) e

/-- Overwrites a page. -/
def updatePage (client : WikiAccess σ) (article : Article) (plan : Plan)
    (page : PageVersion) : Activity σ Outcome := do
  Activity.log (overwriteNotice article)
  match ← client.update page article plan.space with
  | .ok () => pure .updated
  | .error e => fail .update (updateFailed article page e) e

/-- Writes the article, given the page that was found. -/
def publish (client : WikiAccess σ) (article : Article) (plan : Plan) :
    Option PageVersion → Activity σ Outcome
  | none => createPage client article plan
  | some page =>
    if plan.overwriteExisting then updatePage client article plan page
    else do
      Activity.log (unchangedNotice article)
      pure .skippedExisting

/-- Makes the next call of a row. -/
def RowProgress.next (client : WikiAccess σ) (article : Article) (plan : Plan) :
    RowProgress → Activity σ RowProgress
  | .pending => do
    match ← lookUp client article plan with
    | .ok found => pure (.existenceChecked found)
    | .error outcome => pure (.done outcome)
  | .existenceChecked found => return .done (← publish client article plan found)
  | .done outcome => pure (.done outcome)

/-- Makes all calls of a row. -/
def uploadArticle (client : WikiAccess σ) (article : Article) (plan : Plan) :
    Activity σ Outcome := do
  match ← lookUp client article plan with
  | .ok found => publish client article plan found
  | .error outcome => pure outcome

/-- Two steps end every row, with the outcome, the state and the events of `uploadArticle`. -/
theorem run_uploadArticle (client : WikiAccess σ) (article : Article) (plan : Plan) (s : σ) :
    ((RowProgress.pending.next client article plan) >>= fun state =>
        state.next client article plan).run s =
      ((uploadArticle client article plan) >>= fun outcome => pure (.done outcome)).run s := by
  simp only [RowProgress.next, uploadArticle, Activity.run_bind]
  cases ((lookUp client article plan).run s).value <;> simp

end PageMerge.Upload
