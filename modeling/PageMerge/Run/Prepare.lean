import PageMerge.Json.Printer
import PageMerge.Run.Files
import PageMerge.Run.Workspace
import PageMerge.Text.Alphanumeric

/-!
# Preparing a run

Everything that is done before the first article is uploaded: the article data are loaded, the
template is downloaded and taken apart, and all articles are generated and checked. Template and
articles are dumped to files if the settings say so.

A run that cannot be prepared uploads nothing.

## Main definitions

* `ReadyRun`: the data and the articles of a run
* `prepare`: the preparation
* `dumpName`: the name of the file that an article is dumped to
-/

namespace PageMerge

open PageMerge.Config (Settings)
open PageMerge.Data (DataSet LoadError Row)
open PageMerge.Files (Path)
open PageMerge.Json (Value)
open PageMerge.Wiki (Article CallError TemplatePage WikiAccess)
open Workspace

/-- A run that is ready for upload. -/
structure ReadyRun where
  data : DataSet
  /-- An article for each row, in the order of the rows. -/
  articles : List Article

/-! ### Dumps -/

/-- A character that the name of a dump keeps. -/
def isDumpChar (c : Char) : Bool := Text.isAlphanumeric c || c == '-' || c == '_' || c == '.'

/-- The name of the file that the article of a row is dumped to. An identifier with characters that
are not kept is followed by the line of its row, after a character that no other name has. -/
def dumpName (rowId : String) (line : Nat) : String :=
  if rowId.toList.all isDumpChar then s!"{rowId}.json"
  else
    let kept := String.ofList (rowId.toList.map fun c => if isDumpChar c then c else '_')
    s!"{kept}@{line}.json"

/-- The name of the file that the template is dumped to. -/
def templateDumpName : Path := "downloaded_template.json"

/-- A template page as JSON. -/
def templateJson (page : TemplatePage) : Value :=
  .object [("id", .text page.id), ("title", .text page.title), ("body", .text page.body),
    ("page_type", .text page.pageType), ("representation", .text page.representation)]

/-- An article as JSON. -/
def articleJson (article : Article) : Value :=
  .object [("row_id", .text article.rowId), ("title", .text article.title),
    ("content", .text article.content), ("page_type", .text article.pageType),
    ("representation", .text article.representation)]

variable {σ : Type}

/-- Writes a JSON value to a file. -/
def dump (path : Path) (value : Value) : RunActivity σ Unit :=
  RunActivity.attempt (.artifact path) <|
    onFiles fun tree => tree.writeFileWithin path (Text.Utf8.encode value.pretty)

/-- Dumps the articles of rows. -/
def dumpArticles (directory : Path) : List (Row × Article) → RunActivity σ Unit
  | [] => pure ()
  | (row, article) :: rest => do
    dump (directory.join (dumpName article.rowId row.line)) (articleJson article)
    dumpArticles directory rest

/-! ### Stages -/

/-- Loads the data set at the path of the settings, and logs what is found on the way. -/
def readData (settings : Settings) : Activity (Workspace σ) (Except LoadError DataSet) := do
  let space ← Activity.state
  let (result, entries) :=
    Data.loadFile space.files settings.dataCsv settings.delimiter settings.idColumnHeader
  Activity.logAll entries
  pure result

/-- Loads the article data. -/
def loadData (settings : Settings) : RunActivity σ DataSet := do
  RunActivity.log (Log.info s!"Loading the article data from '{settings.dataCsv.text}'")
  let data ← RunActivity.attempt .data (readData settings)
  RunActivity.log (Log.info s!"Loaded {data.rows.length} article data entries")
  pure data

/-- The error of a run whose template was not downloaded. An answer that is not of the expected form
is a fault of the template, everything else one of the download. -/
def templateError (templateId : String) : CallError → RunFault
  | .unexpectedResponse url reason =>
    .templateProcessing templateId (.unexpectedResponse url reason)
  | cause => .templateDownload templateId cause

/-- Downloads the template. -/
def fetchTemplate (settings : Settings) (client : WikiAccess σ) : RunActivity σ TemplatePage := do
  RunActivity.log (Log.info s!"Downloading the template with ID '{settings.templateId}'")
  RunActivity.attempt (templateError settings.templateId) <|
    onWiki (client.fetchTemplate settings.templateId)

/-- What the log says about the template of a page if it was kept. -/
def keptEntries (settings : Settings) (page : TemplatePage) (store : TemplateStore) :
    List Log.Entry :=
  if (store.hit? settings.marks page).isSome then
    [Log.debug s!"Using the cached parse of template {page.id}"]
  else []

/-- The template of a page, from the kept templates. -/
def obtainTemplate (settings : Settings) (page : TemplatePage) :
    Activity (Workspace σ) (Except TemplateProblem ScannedTemplate) := do
  let space ← Activity.state
  Activity.logAll (keptEntries settings page space.store)
  onStore fun store => store.obtain settings.marks page

/-- Takes the template apart. -/
def parseTemplate (settings : Settings) (page : TemplatePage) : RunActivity σ Template := do
  let parsed ← RunActivity.attempt .grammar (obtainTemplate settings page)
  pure parsed.template

/-- Generates and checks the articles. -/
def generateArticles (template : Template) (data : DataSet) : RunActivity σ (List Article) := do
  let articles ← RunActivity.ofExcept .validation (Batch.articles template data)
  RunActivity.log (Log.info s!"Generated {articles.length} articles")
  pure articles

/-- Prepares a run. -/
def prepare (settings : Settings) (client : WikiAccess σ) (paths : RunFiles) :
    RunActivity σ ReadyRun := do
  let data ← loadData settings
  let page ← fetchTemplate settings client
  if settings.dumpTemplate then
    dump (paths.dumpDirectory.join templateDumpName) (templateJson page)
  let template ← parseTemplate settings page
  let articles ← generateArticles template data
  if settings.dumpGeneratedArticles then
    dumpArticles paths.dumpDirectory (data.rows.zip articles)
  pure ⟨data, articles⟩

end PageMerge
