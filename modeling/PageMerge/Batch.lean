import PageMerge.Template.Render

/-!
# Batches

All articles of a data set, generated and checked before any of them is uploaded. A batch is
refused if a placeholder has no column, or else if two rows have the same title.

## Main definitions

* `Issue`, `Refusal`: what is wrong with a batch
* `articles`: the articles of a data set
-/

namespace PageMerge.Batch

open PageMerge.Data (DataSet Row)
open PageMerge.Wiki (Article)

/-- Something that is wrong with a batch. -/
inductive Issue where
  /-- A placeholder without a column, and the first row that shows it. -/
  | unknownPlaceholder (name rowId : String)
  /-- A title of several rows, with the identifiers of all of them. -/
  | duplicateTitle (title : String) (rowIds : List String)
  deriving DecidableEq, Repr

/-- The number that stands for an issue in the log. -/
def Issue.id : Issue → Nat
  | .unknownPlaceholder .. => 10
  | .duplicateTitle .. => 9

/-- The wording of an issue. -/
def Issue.message : Issue → String
  | .unknownPlaceholder name rowId =>
    s!"The article data with ID '{rowId}' contain no value for the placeholder '{name}'"
  | .duplicateTitle title rowIds =>
    let listed := String.intercalate ", " (rowIds.map fun id => s!"'{id}'")
    s!"The article data with IDs {listed} all generate the title '{title}'"

/-- Everything that is wrong with a batch. -/
structure Refusal where
  issues : List Issue
  deriving DecidableEq, Repr

namespace Refusal

/-- The number that stands for a refused batch in the log. -/
def id : Nat := 12

/-- The wording of the report as a whole. -/
def message (report : Refusal) : String :=
  s!"Validation found {report.issues.length} error(s), no article was uploaded"

/-- A line for each issue. -/
def messages (report : Refusal) : List String :=
  report.issues.map fun issue => s!"[E{issue.id}] {issue.message}"

end Refusal

/-- Pairs without those whose first part an earlier pair has. -/
def firstOfEach (seen : List String) : List (String × String) → List (String × String)
  | [] => []
  | (name, value) :: rest =>
    if name ∈ seen then firstOfEach seen rest
    else (name, value) :: firstOfEach (name :: seen) rest

/-- An issue for each placeholder that some row has no value for. -/
def unknownPlaceholders (template : Template) (rows : List Row) : List Issue :=
  (firstOfEach [] (rows.flatMap fun row =>
    (template.unknownNames row).map (·, row.id))).map fun (name, rowId) =>
      .unknownPlaceholder name rowId

/-- An issue for each title that several articles have, in order of first appearance. -/
def duplicateTitles (articles : List Article) : List Issue :=
  (articles.map Article.title).eraseDups.filterMap fun title =>
    let rowIds := (articles.filter (·.title == title)).map Article.rowId
    if 1 < rowIds.length then some (.duplicateTitle title rowIds) else none

/-- The articles of the rows in order, or what is wrong with the batch. -/
def articles (template : Template) (data : DataSet) : Except Refusal (List Article) :=
  match unknownPlaceholders template data.rows with
  | [] =>
    let articles := data.rows.map template.articleOf
    match duplicateTitles articles with
    | [] => .ok articles
    | issues => .error ⟨issues⟩
  | issues => .error ⟨issues⟩

end PageMerge.Batch
