/-!
# Media types

The form of a body as a header names it: a type, a slash, a subtype that may end with a plus sign
and a suffix, and parameters after semicolons. Capital and small letters mean the same.

## Main definitions

* `MediaType.parse?`: the media type of a text
* `MediaType.isJson`: the body is JSON
-/

namespace PageMerge.Api

/-- The form of a body. -/
structure MediaType where
  kind : String
  subtype : String
  suffix : Option String
  deriving DecidableEq, Repr

namespace MediaType

/-- A character of a name. -/
def isNameChar (c : Char) : Bool :=
  c.isAlphanum || "!#$%&'*+-.^_|~".toList.contains c || c == '\x60'

/-- A character between quotes. -/
def isQuotedChar (c : Char) : Bool := ' ' ≤ c && c ≠ '"' && c ≠ '\x7f'

/-- What comes after the value of a parameter: nothing, or a semicolon and more. -/
def afterQuote (rest : List Char) : Option (List Char) :=
  match rest.dropWhile (· == ' ') with
  | [] => some []
  | ';' :: rest => some rest
  | _ => none

/-- What comes after a value without quotes. -/
def afterName : List Char → Option (List Char)
  | [] => some []
  | ';' :: rest => some rest
  | _ => none

/-- The text after the value of a parameter, if it is a value. -/
def skipValue? (cs : List Char) : Option (List Char) :=
  match cs with
  | '"' :: quoted =>
    match quoted.dropWhile isQuotedChar with
    | '"' :: rest => if quoted.head? = some '"' then none else afterQuote rest
    | _ => none
  | _ =>
    let rest := cs.dropWhile isNameChar
    if cs.length = rest.length then none else afterName rest

/-- The text after a parameter, if it is one. -/
def skipParameter? (cs : List Char) : Option (List Char) :=
  let cs := cs.dropWhile (· == ' ')
  let rest := cs.dropWhile isNameChar
  match rest with
  | '=' :: value => if cs.length = rest.length then none else skipValue? value
  | _ => none

/-- Whether a text is one parameter or several, at most as many as a bound. -/
def areParameters : (bound : Nat) → List Char → Bool
  | 0, _ => false
  | bound + 1, cs =>
    match skipParameter? cs with
    | none => false
    | some [] => true
    | some rest => areParameters bound rest

/-- Whether a text after the subtype may stand there. -/
def isTail : List Char → Bool
  | [] => true
  | ';' :: rest => areParameters (rest.length + 1) rest
  | _ => false

/-- The subtype and the suffix of a name. A plus sign at its start is part of the subtype. -/
def splitSuffix (name : List Char) : String × Option String :=
  let suffix := (name.reverse.takeWhile (· != '+')).reverse
  let subtype := name.take (name.length - suffix.length - 1)
  if suffix.length < name.length ∧ subtype ≠ [] then
    (String.ofList subtype, some (String.ofList suffix))
  else (String.ofList name, none)

/-- The media type of a text. -/
def parse? (text : String) : Option MediaType :=
  let cs := text.toLower.toList
  let kind := cs.takeWhile isNameChar
  match cs.dropWhile isNameChar with
  | '/' :: rest =>
    let name := rest.takeWhile isNameChar
    if kind.isEmpty ∨ name.isEmpty ∨ !isTail (rest.dropWhile isNameChar) then none
    else
      let (subtype, suffix) := splitSuffix name
      some ⟨String.ofList kind, subtype, suffix⟩
  | _ => none

/-- The body is JSON. -/
def isJson (media : MediaType) : Bool := media.subtype == "json" || media.suffix == some "json"

end MediaType

end PageMerge.Api
