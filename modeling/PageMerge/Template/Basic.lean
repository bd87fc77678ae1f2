import PageMerge.Template.Scan
import PageMerge.Wiki.Page

/-!
# Templates

The title and the body of a template page, split into tokens.

## Main definitions

* `Template.ofPage`: the template of a page
* `TemplateProblem`: the stray marks of title and body
-/

namespace PageMerge

open PageMerge.Template (Marks StrayMarks Tokens)
open PageMerge.Wiki (TemplatePage)

/-- A template page with title and body split into tokens. -/
structure Template where
  title : Tokens
  body : Tokens
  pageType : String
  representation : String
  deriving DecidableEq, Repr

/-- The errors of a template page; at least one part has one. -/
structure TemplateProblem where
  title : Option StrayMarks
  body : Option StrayMarks
  deriving DecidableEq, Repr

namespace TemplateProblem

/-- The number that stands for the error in the log. -/
def id : Nat := 11

/-- What is wrong with a part of the template. -/
def partMessage (part : String) (error : StrayMarks) : String :=
  s!"The template {part} contains {error.message}"

/-- A message for each malformed part. -/
def messages (error : TemplateProblem) : List String :=
  (error.title.map (partMessage "title")).toList ++ (error.body.map (partMessage "body")).toList

/-- The wording of the error. -/
def message (error : TemplateProblem) : String := String.intercalate "; " error.messages

end TemplateProblem

/-- The template of a page. -/
def Template.ofPage (marks : Marks) (page : TemplatePage) : Except TemplateProblem Template :=
  match Template.scan marks page.title, Template.scan marks page.body with
  | .ok title, .ok body => .ok ⟨title, body, page.pageType, page.representation⟩
  | .error title, .ok _ => .error ⟨some title, none⟩
  | .ok _, .error body => .error ⟨none, some body⟩
  | .error title, .error body => .error ⟨some title, some body⟩

end PageMerge
