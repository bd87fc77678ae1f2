import PageMerge.Http.Url
import PageMerge.Json.Value

/-!
# Requests and replies

What a client sends to a server, and what comes back. How it gets there is a parameter: anything
that replies to requests and may remember them.

## Main definitions

* `Request`, `Reply`: what is sent and what comes back
* `Transport`: the way to a server
* `unreachable`: a way that leads nowhere
-/

namespace PageMerge.Http

/-- What a request asks for. -/
inductive Method where
  | get
  | post
  | put
  deriving DecidableEq, Repr

/-- The name of a method. -/
def Method.name : Method → String
  | .get => "GET"
  | .post => "POST"
  | .put => "PUT"

/-- What a client sends. -/
structure Request where
  method : Method
  url : Url
  /-- Name and value of each header that the client sets. -/
  headers : List (String × String)
  /-- The JSON value that is sent, if any. -/
  body : Option Json.Value

/-- What comes back. -/
inductive Reply where
  /-- An answer with a status and a body. -/
  | answer (status : Nat) (body : Text.Bytes)
  /-- No answer. -/
  | dropped
  /-- An answer whose body is shorter than announced. -/
  | cut (status : Nat)

/-- The way to a server: a reply, and what is remembered after it. -/
abbrev Transport (σ : Type) := Request → σ → Reply × σ

/-- A way on which no request arrives. -/
def unreachable {σ : Type} : Transport σ := fun _ state => (.dropped, state)

/-- A status of success. -/
def isSuccess (status : Nat) : Bool := 200 ≤ status && status < 300

/-- What a status of success means. -/
def successText : Nat → String
  | 200 => "OK"
  | 201 => "Created"
  | 202 => "Accepted"
  | 203 => "Non Authoritative Information"
  | 204 => "No Content"
  | 205 => "Reset Content"
  | 206 => "Partial Content"
  | 207 => "Multi-Status"
  | 208 => "Already Reported"
  | 226 => "IM Used"
  | _ => "<unknown status code>"

end PageMerge.Http
