import PageMerge.Api.MediaType
import PageMerge.Files.Path
import PageMerge.Json.Reader

/-!
# Requests for a new job

What the body of a request for a new job says: perhaps a path of article data in place of the
configured one. The body is optional, and one that cannot be used counts as none.

## Main definitions

* `StartRequest`: what is asked for
* `StartRequest.ofBody`: the request of a body
-/

namespace PageMerge.Api

open PageMerge.Files (Path)
open PageMerge.Json (Value)

/-- What is asked for. -/
structure StartRequest where
  data : Option Path
  deriving DecidableEq, Repr

namespace StartRequest

/-- A request without wishes. -/
def plain : StartRequest := ⟨none⟩

/-- The request for the article data of a JSON value. -/
def ofData? : Value → Option StartRequest
  | .null => some plain
  | .text path => some ⟨some path⟩
  | _ => none

/-- The request that a JSON value stands for: an object that names the article data at most once,
or a list of at most the article data. -/
def ofJson? : Value → Option StartRequest
  | .object members =>
    match members.filter fun (name, _) => name == "data_csv" with
    | [] => some plain
    | [(_, data)] => ofData? data
    | _ => none
  | .array [] => some plain
  | .array [data] => ofData? data
  | _ => none

/-- The request of a body of some media type. -/
def ofBody (media : Option String) (body : String) : StartRequest :=
  if (media.bind MediaType.parse?).any MediaType.isJson then
    ((Json.readString body).toOption.bind ofJson?).getD plain
  else plain

end StartRequest

end PageMerge.Api
