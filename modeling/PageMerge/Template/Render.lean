import PageMerge.Data.DataSet
import PageMerge.Template.Basic

/-!
# Rendering

Puts the values of a row in the place of the placeholders of a template. A value is inserted as it
is: the marks in it have no meaning, since the text is not scanned again.

## Main definitions

* `Template.unknownNames`: the placeholders that a row has no value for
* `Template.render`: the article of a row
-/

namespace PageMerge

open PageMerge.Data (Row)
open PageMerge.Template (Token Tokens)
open PageMerge.Wiki (Article)

/-- The placeholders of a template that a row has no value for. -/
structure MissingValues where
  rowId : String
  /-- Each name once, in order of first appearance, the title before the body. -/
  unknown : List String
  deriving DecidableEq, Repr

/-- The wording of the error. -/
def MissingValues.message (error : MissingValues) : String :=
  let listed := String.intercalate ", " error.unknown
  s!"The article data with ID '{error.rowId}' have no values for the placeholders {listed}"

namespace Template

/-- The text of a token for a row. -/
def Token.fill (row : Row) : Token → String
  | .literal text => text
  | .placeholder name => (row.get? name).getD ""

/-- The text of a sequence for a row. -/
def fill (row : Row) (tokens : Tokens) : String := String.join (tokens.map (Token.fill row))

/-- The placeholders of the template that the row has no value for, each once. -/
def unknownNames (template : Template) (row : Row) : List String :=
  ((names template.title ++ names template.body).filter fun name =>
    (row.get? name).isNone).eraseDups

/-- The article that the template generates for a row that has a value for each placeholder. -/
def articleOf (template : Template) (row : Row) : Article :=
  { rowId := row.id
    title := fill row template.title
    content := fill row template.body
    pageType := template.pageType
    representation := template.representation }

/-- The article of a row. -/
def render (template : Template) (row : Row) : Except MissingValues Article :=
  match template.unknownNames row with
  | [] => .ok (template.articleOf row)
  | unknown => .error ⟨row.id, unknown⟩

end Template

end PageMerge
