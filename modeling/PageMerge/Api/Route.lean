import PageMerge.Http.Url
import PageMerge.Text.Utf8

/-!
# Routes

What a method and a path ask for. Everything stands below one path; a job is named by the last
segment of a path, in which bytes can be written as a percent sign and two hexadecimal digits.

## Main definitions

* `Route`: what can be asked for
* `Route.of?`: the route of a method and a target
-/

namespace PageMerge.Api

/-- What can be asked for. -/
inductive Route where
  | start
  | status (id : String)
  | cancel (id : String)
  deriving DecidableEq, Repr

namespace Route

/-- The text with bytes for what is written with percent signs, except for some characters. -/
def unquote (keep : List Char) (text : String) : String :=
  Text.Utf8.decodeLenient (Http.percentDecode keep text.toList)

/-- The characters that would change the segments of a path or what is written in them. -/
def pathMarks : List Char := ['%', '/', '+']

/-- The path of a target: what stands before a question mark. -/
def pathOf (target : String) : String := String.ofList (target.toList.takeWhile (· != '?'))

/-- The segments of a path. -/
def segments (target : String) : List String :=
  ((unquote pathMarks (pathOf target)).toList.splitOn '/').map String.ofList

/-- The route of a method and a target. -/
def of? (method target : String) : Option Route :=
  match method, segments target with
  | "POST", ["", "api", "merge", "start"] => some .start
  | "GET", ["", "api", "merge", "status", id] =>
    if id.isEmpty then none else some (.status (unquote [] id))
  | "POST", ["", "api", "merge", "cancel", id] =>
    if id.isEmpty then none else some (.cancel (unquote [] id))
  | _, _ => none

end Route

end PageMerge.Api
