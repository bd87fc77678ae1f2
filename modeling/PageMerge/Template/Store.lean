import PageMerge.Template.Basic

/-!
# Kept templates

Keeps the last template of each page, so that a page that did not change is not scanned again. A
kept template is used if title, body and marks are those that it was made from. A malformed page is
not kept, so it is scanned on every request.

## Main definitions

* `TemplateStore`: kept templates, and the number of scans so far
* `TemplateStore.obtain`: the template of a page
-/

namespace PageMerge

open PageMerge.Template (Marks)
open PageMerge.Wiki (TemplatePage)

/-- A template with the number of the scan that made it. -/
structure ScannedTemplate where
  scan : Nat
  template : Template
  deriving DecidableEq, Repr

/-- A kept template with what it was made from. -/
structure KeptTemplate where
  title : String
  body : String
  marks : Marks
  parsed : ScannedTemplate

/-- Kept templates by the identifiers of their pages, and the number of scans so far. -/
structure TemplateStore where
  entries : List (String × KeptTemplate)
  scanCount : Nat

namespace TemplateStore

/-- A store that has not been used. -/
def empty : TemplateStore := ⟨[], 0⟩

/-- The kept template of a page, if it was made from the same texts and marks. -/
def hit? (store : TemplateStore) (marks : Marks) (page : TemplatePage) : Option ScannedTemplate :=
  match store.entries.lookup page.id with
  | none => none
  | some kept =>
    if kept.title = page.title ∧ kept.body = page.body ∧ kept.marks = marks then some kept.parsed
    else none

/-- Keeps a template for a page; it replaces the one kept before. -/
def keep (store : TemplateStore) (id : String) (kept : KeptTemplate) : TemplateStore :=
  { store with entries := (id, kept) :: store.entries.filter fun (other, _) => other != id }

/-- The template of a page, from the store if it is kept there. -/
def obtain (store : TemplateStore) (marks : Marks) (page : TemplatePage) :
    Except TemplateProblem ScannedTemplate × TemplateStore :=
  match store.hit? marks page with
  | some parsed => (.ok parsed, store)
  | none =>
    let counted := { store with scanCount := store.scanCount + 1 }
    match Template.ofPage marks page with
    | .error e => (.error e, counted)
    | .ok template =>
      let parsed := ⟨counted.scanCount, template⟩
      (.ok parsed, counted.keep page.id ⟨page.title, page.body, marks, parsed⟩)

end TemplateStore

end PageMerge
