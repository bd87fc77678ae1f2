import PageMerge.Activity
import PageMerge.Wiki.Page

/-!
# Wiki clients

The calls that a run makes to a wiki. What a call does to the wiki is seen in a state, whatever that
is for a given kind of wiki.

## Main definitions

* `WikiAccess`: the four calls
-/

namespace PageMerge.Wiki

/-- The calls that a run makes to a wiki. -/
structure WikiAccess (σ : Type) where
  /-- The page of a template by its identifier. -/
  fetchTemplate (id : String) : Activity σ (Except CallError TemplatePage)
  /-- The page with exactly this title in a space. -/
  findPage (title space : String) : Activity σ (Except CallError (Option PageVersion))
  /-- A new page for an article, below a parent page or at the root of the space. -/
  create (article : Article) (space : String) (parent : Option String) :
    Activity σ (Except CallError Unit)
  /-- An article in the place of the content of a page, which gets the next version. -/
  update (page : PageVersion) (article : Article) (space : String) :
    Activity σ (Except CallError Unit)

end PageMerge.Wiki
