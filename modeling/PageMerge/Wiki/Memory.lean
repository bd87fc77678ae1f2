import PageMerge.Upload.Outcome
import PageMerge.Wiki.Client

/-!
# A wiki in memory

Pages by space and title. Every page gets an identifier of its own and counts its versions; a page
is only overwritten by who knows its present version. Calls can be made to fail by title and kind.
Every call is recorded, also one that fails.

## Main definitions

* `MemoryWiki`: pages, failures and recorded calls
* `MemoryWiki.client`: the calls of a run
-/

namespace PageMerge.Wiki

open PageMerge.Upload (FailedCall)

/-- A page that is stored. -/
structure MemoryPage where
  id : String
  version : Nat
  content : String
  parentId : Option String
  deriving DecidableEq, Repr

/-- A call that was made. -/
inductive RecordedCall where
  | fetchTemplate (id : String)
  | findPage (title : String)
  | create (title : String)
  | update (title : String)
  deriving DecidableEq, Repr

/-- The name of a kind of call. -/
def RecordedCall.kind : RecordedCall → String
  | .fetchTemplate _ => "FetchTemplate"
  | .findPage _ => "FindPage"
  | .create _ => "Create"
  | .update _ => "Update"

/-- What a call is about: the identifier of a template, or the title of a page. -/
def RecordedCall.subject : RecordedCall → String
  | .fetchTemplate id => id
  | .findPage title => title
  | .create title => title
  | .update title => title

/-- The call writes a page. -/
def RecordedCall.isWrite : RecordedCall → Bool
  | .create _ => true
  | .update _ => true
  | _ => false

/-- The place of a page. -/
structure PageKey where
  space : String
  title : String
  deriving DecidableEq, Repr

/-- A wiki that is kept in memory. -/
structure MemoryWiki where
  template : Option TemplatePage
  pages : List (PageKey × MemoryPage)
  failures : List (String × FailedCall)
  /-- The calls so far, the first one first. -/
  calls : List RecordedCall
  /-- The number of pages that got an identifier so far. -/
  lastId : Nat
  deriving Repr

/-- An answer, and the wiki after it. -/
abbrev Reply (α : Type) := Except CallError α × MemoryWiki

namespace MemoryWiki

/-- A wiki without pages. -/
def empty (template : Option TemplatePage) : MemoryWiki := ⟨template, [], [], [], 0⟩

/-- The page at a place. -/
def page? (wiki : MemoryWiki) (key : PageKey) : Option MemoryPage := wiki.pages.lookup key

/-- Puts a page at a place. -/
def put (wiki : MemoryWiki) (key : PageKey) (page : MemoryPage) : MemoryWiki :=
  { wiki with pages := (key, page) :: wiki.pages.filter fun (other, _) => other != key }

/-- Puts a new page at a place. -/
def putNew (wiki : MemoryWiki) (key : PageKey) (content : String) (parent : Option String) :
    MemoryWiki :=
  { wiki with lastId := wiki.lastId + 1 }.put key
    ⟨toString (wiki.lastId + 1), 1, content, parent⟩

/-- Adds a page without parent. -/
def addPage (wiki : MemoryWiki) (key : PageKey) (content : String) : MemoryWiki :=
  wiki.putNew key content none

/-- Makes the calls of a kind fail for a title. -/
def injectFailure (wiki : MemoryWiki) (title : String) (stage : FailedCall) : MemoryWiki :=
  { wiki with failures := (title, stage) :: wiki.failures }

/-- The number of calls so far that write a page. -/
def writeCount (wiki : MemoryWiki) : Nat := wiki.calls.countP RecordedCall.isWrite

/-- Records a call. -/
def record (wiki : MemoryWiki) (call : RecordedCall) : MemoryWiki :=
  { wiki with calls := wiki.calls ++ [call] }

/-- Why a call of a kind fails for a title, if it was made to. -/
def injected? (wiki : MemoryWiki) (title : String) (stage : FailedCall) : Option CallError :=
  if (title, stage) ∈ wiki.failures then
    some (.service s!"Injected {stage.name} failure for '{title}'")
  else none

/-- The template of an identifier. -/
def fetchTemplate (id : String) (wiki : MemoryWiki) : Reply TemplatePage :=
  let answer := match wiki.template.filter (·.id == id) with
    | some template => .ok template
    | none => .error (.service s!"No content found with id {id}")
  (answer, wiki.record (.fetchTemplate id))

/-- Looks up a page. -/
def findPage (title space : String) (wiki : MemoryWiki) : Reply (Option PageVersion) :=
  let answer := match wiki.injected? title .existenceCheck with
    | some e => .error e
    | none => .ok ((wiki.page? ⟨space, title⟩).map fun page => ⟨page.id, page.version⟩)
  (answer, wiki.record (.findPage title))

/-- Creates a page where none is. -/
def create (article : Article) (space : String) (parent : Option String) (wiki : MemoryWiki) :
    Reply Unit :=
  let wiki := wiki.record (.create article.title)
  match wiki.injected? article.title .create, wiki.page? ⟨space, article.title⟩ with
  | some e, _ => (.error e, wiki)
  | none, some _ =>
    (.error (.service s!"A page with this title already exists: '{article.title}'"), wiki)
  | none, none => (.ok (), wiki.putNew ⟨space, article.title⟩ article.content parent)

/-- Overwrites a page whose identifier and version are as given. -/
def update (page : PageVersion) (article : Article) (space : String) (wiki : MemoryWiki) :
    Reply Unit :=
  let wiki := wiki.record (.update article.title)
  let stored := (wiki.page? ⟨space, article.title⟩).filter (·.id == page.id)
  match wiki.injected? article.title .update, stored with
  | some e, _ => (.error e, wiki)
  | none, none => (.error (.service s!"No page with id {page.id}"), wiki)
  | none, some stored =>
    if stored.version = page.version then
      (.ok (), wiki.put ⟨space, article.title⟩
        { stored with version := stored.version + 1, content := article.content })
    else
      (.error (.service
        s!"Version conflict for page {page.id}: {stored.version} != {page.version}"), wiki)

/-- The calls of a run. -/
def client : WikiAccess MemoryWiki where
  fetchTemplate id := Activity.silent (fetchTemplate id)
  findPage title space := Activity.silent (findPage title space)
  create article space parent := Activity.silent (create article space parent)
  update page article space := Activity.silent (update page article space)

end MemoryWiki

end PageMerge.Wiki
