/-!
# Pages of a wiki

The pages that a run downloads, looks up and writes, and what can go wrong with a call to the wiki.

## Main definitions

* `TemplatePage`, `PageVersion`: pages as the wiki gives them
* `Article`: a page that is ready for upload
* `CallError`: why a call to the wiki failed
-/

namespace PageMerge.Wiki

/-- The page of a template as it was downloaded. -/
structure TemplatePage where
  id : String
  title : String
  body : String
  /-- The type of the content, usually `page`. -/
  pageType : String
  /-- The format of the body, usually `storage`. -/
  representation : String
  deriving DecidableEq, Repr

/-- A page that was found by its title, with what is needed to write it anew. -/
structure PageVersion where
  id : String
  version : Nat
  deriving DecidableEq, Repr

/-- A finished page. -/
structure Article where
  /-- The identifier of the row that it was generated from. -/
  rowId : String
  title : String
  content : String
  pageType : String
  representation : String
  deriving DecidableEq, Repr

/-- Why a call to the wiki failed. -/
inductive CallError where
  /-- The client could not be set up. -/
  | client (cause : String)
  /-- No whole answer came. -/
  | transport (url cause : String)
  /-- The answer has a status of failure. -/
  | status (url : String) (code : Nat) (message : String)
  /-- The answer is not of the expected form. -/
  | unexpectedResponse (url reason : String)
  /-- The service itself refused. -/
  | service (message : String)
  deriving DecidableEq, Repr

/-- The wording of an error. -/
def CallError.message : CallError → String
  | .client cause => s!"Could not build the HTTP client: {cause}"
  | .transport url cause => s!"Request to '{url}' failed: {cause}"
  | .status url code message =>
    s!"Got a response '{message}' with status code {code} from '{url}'"
  | .unexpectedResponse url reason => s!"Unexpected response from '{url}': {reason}"
  | .service message => message

end PageMerge.Wiki
