import PageMerge.Text.Utf8

/-!
# URLs

The URLs of requests, in their usual form: scheme and host in lower case, no default port, no idle
segments in the path, and a percent sign with two hexadecimal digits for every byte that cannot
stand for itself. Requests go to HTTP and HTTPS only, and to hosts in ASCII; a URL of another scheme
may have no host, and then its path can be a text of any form. Name and password in a URL are left
out.

## Main definitions

* `Url`: the parts of a URL
* `Url.parse?`: the URL of a text
* `Url.addQuery`: a URL with more parameters
* `Url.text`: the text of a URL
-/

namespace PageMerge.Http

open PageMerge.Text (Bytes)

/-- The parts of a URL. -/
structure Url where
  scheme : String
  /-- The host, if two slashes announce one. -/
  host : Option (List Char)
  /-- The port, unless it is the usual one of the scheme. -/
  port : Option Nat
  path : List Char
  query : Option (List Char)
  fragment : Option (List Char)
  deriving DecidableEq, Repr

/-! ### Percent encoding -/

/-- An upper-case hexadecimal digit. -/
def hexDigit (n : Nat) : Char := (Nat.digitChar n).toUpper

/-- A byte as a percent sign with two digits. -/
def percentByte (b : UInt8) : List Char := ['%', hexDigit (b.toNat / 16), hexDigit (b.toNat % 16)]

/-- A character as its bytes with percent signs. -/
def percentChar (c : Char) : List Char := (String.utf8EncodeChar c).flatMap percentByte

/-- A text with percent signs for the characters of a class, and for controls and characters beyond
ASCII. -/
def percentEncode (special : List Char) (cs : List Char) : List Char :=
  cs.flatMap fun c =>
    if c.toNat < 0x20 ∨ 0x7E < c.toNat ∨ c ∈ special then percentChar c else [c]

/-- The characters that do not stand for themselves in a path. -/
def pathSpecial : List Char := [' ', '"', '#', '<', '>', '?', '`', '{', '}']

/-- The characters that do not stand for themselves in a query. -/
def querySpecial : List Char := [' ', '"', '#', '<', '>', '\'']

/-- The characters that do not stand for themselves in a fragment. -/
def fragmentSpecial : List Char := [' ', '"', '<', '>', '`']

/-- A character of a parameter. -/
def formChar (c : Char) : List Char :=
  if c = ' ' then ['+']
  else if c.isAlphanum ∨ c ∈ ['*', '-', '.', '_'] then [c]
  else percentChar c

/-- A text as a name or a value of a parameter. -/
def formEncode (s : String) : List Char := s.toList.flatMap formChar

/-- The value of a hexadecimal digit. -/
def hexValue? (c : Char) : Option Nat :=
  if c.isDigit then some (c.toNat - 48)
  else if 'a' ≤ c ∧ c ≤ 'f' then some (c.toNat - 87)
  else if 'A' ≤ c ∧ c ≤ 'F' then some (c.toNat - 55)
  else none

/-- The bytes of a text in which percent signs with two digits stand for bytes, except for the
bytes of the given characters. -/
def percentDecode (keep : List Char) : List Char → Bytes
  | [] => []
  | '%' :: a :: b :: rest =>
    match hexValue? a, hexValue? b with
    | some x, some y =>
      if keep.contains (Char.ofNat (x * 16 + y)) then 0x25 :: percentDecode keep (a :: b :: rest)
      else (x * 16 + y).toUInt8 :: percentDecode keep rest
    | _, _ => 0x25 :: percentDecode keep (a :: b :: rest)
  | c :: rest => String.utf8EncodeChar c ++ percentDecode keep rest
termination_by cs => cs.length

/-! ### Hosts -/

/-- The characters that no host has, besides controls. -/
def hostForbidden : List Char :=
  [' ', '#', '/', ':', '<', '>', '?', '@', '[', '\\', ']', '^', '|', '%', '\x7f']

/-- The value of digits in a base. -/
def digits? (base : Nat) (cs : List Char) : Option Nat :=
  cs.foldlM (fun n c => do
    let d ← hexValue? c
    if d < base then some (n * base + d) else none) 0

/-- A part of an address of four bytes: decimal, octal after a zero, or hexadecimal after `0x`. -/
def addressPart? : List Char → Option Nat
  | [] => none
  | '0' :: 'x' :: cs => digits? 16 cs
  | ['0'] => some 0
  | '0' :: cs => digits? 8 cs
  | cs => digits? 10 cs

/-- The parts of a host between its points; a point at the end counts for nothing. -/
def hostParts (host : List Char) : List (List Char) :=
  match (host.splitOn '.').reverse with
  | [] :: second :: rest => (second :: rest).reverse
  | parts => parts.reverse

/-- The last part of a host is a number, so that the host is an address of four bytes. -/
def endsInNumber (host : List Char) : Bool :=
  match (hostParts host).getLast? with
  | none => false
  | some part => (!part.isEmpty && part.all Char.isDigit) || (addressPart? part).isSome

/-- An address of four bytes, of which the last part gives all the bytes that are left. -/
def address? (host : List Char) : Option (List Char) := do
  let numbers ← (hostParts host).mapM addressPart?
  let last ← numbers.getLast?
  let before := numbers.dropLast
  let room := 1 <<< (8 * (4 - before.length))
  if 3 < before.length ∨ before.any (255 < ·) ∨ room ≤ last then none
  else
    let value := before.foldl (fun value n => value * 256 + n) 0 * room + last
    some ((toString (value >>> 24)).toList ++ '.' :: (toString ((value >>> 16) % 256)).toList ++
      '.' :: (toString ((value >>> 8) % 256)).toList ++ '.' :: (toString (value % 256)).toList)

/-- A host in its usual form. -/
def host? (cs : List Char) : Option (List Char) := do
  let host := (← Text.Utf8.decode? (percentDecode [] cs)).toList.map Char.toLower
  if host.isEmpty ∨ host.any (fun c => c.toNat < 0x20 || 0x7E < c.toNat || c ∈ hostForbidden) then
    none
  else if endsInNumber host then address? host
  else some host

/-- A host between brackets. -/
def bracketHost? (cs : List Char) : Option (List Char) :=
  if cs ≠ [] ∧ cs.all (fun c => (hexValue? c).isSome || c == ':' || c == '.') then
    some ('[' :: (cs.map Char.toLower ++ [']']))
  else none

/-! ### Parts -/

/-- The usual ports of the schemes whose URLs always name a server. -/
def serverPorts : List (String × Nat) :=
  [("http", 80), ("https", 443), ("ftp", 21), ("ws", 80), ("wss", 443)]

/-- The scheme of a text, in lower case, and what stands after its colon. -/
def scheme? (cs : List Char) : Option (String × List Char) :=
  let isName := fun (c : Char) => c.isAlphanum || c == '+' || c == '-' || c == '.'
  match cs.takeWhile isName, cs.dropWhile isName with
  | c :: name, ':' :: rest =>
    if c.isAlpha then some (String.ofList ((c :: name).map Char.toLower), rest) else none
  | _, _ => none

/-- The port of digits after a colon; the usual one is left out. -/
def port? (usual : Option Nat) : List Char → Option (Option Nat)
  | [] => some none
  | ':' :: [] => some none
  | ':' :: cs =>
    if cs.all Char.isDigit then do
      let n ← digits? 10 cs
      if n < UInt16.size then some (if some n = usual then none else some n) else none
    else none
  | _ => none

/-- A host of a scheme without usual port: any text that has none of the marks of a URL. -/
def freeHost? (cs : List Char) : Option (List Char) :=
  if cs.any fun c => c != '%' && c != '\x7f' && c ∈ hostForbidden then none
  else some (percentEncode [] cs)

/-- Host and port of the part before the path. -/
def authority? (usual : Option Nat) (cs : List Char) : Option (List Char × Option Nat) := do
  let cs := (cs.reverse.takeWhile (· != '@')).reverse
  match cs with
  | '[' :: rest =>
    let host ← bracketHost? (rest.takeWhile (· != ']'))
    match rest.dropWhile (· != ']') with
    | ']' :: rest => some (host, ← port? usual rest)
    | _ => none
  | cs =>
    let name := cs.takeWhile (· != ':')
    let host ← if usual.isSome then host? name else freeHost? name
    some (host, ← port? usual (cs.dropWhile (· != ':')))

/-- A segment that means its own directory. -/
def isIdleSegment (segment : List Char) : Bool :=
  let s := segment.map Char.toLower
  s == ['.'] || s == ['%', '2', 'e']

/-- A segment that means the directory above. -/
def isUpSegment (segment : List Char) : Bool :=
  let s := segment.map Char.toLower
  s == ['.', '.'] || s == ['.', '%', '2', 'e'] || s == ['%', '2', 'e', '.'] ||
    s == ['%', '2', 'e', '%', '2', 'e']

/-- The segments of a path, the last one first, after those that were taken so far. -/
def takeSegments (taken : List (List Char)) : List (List Char) → List (List Char)
  | [] => taken
  | segment :: rest =>
    let ending := if rest.isEmpty then [[]] else []
    if isUpSegment segment then takeSegments (ending ++ taken.drop 1) rest
    else if isIdleSegment segment then takeSegments (ending ++ taken) rest
    else takeSegments (percentEncode pathSpecial segment :: taken) rest

/-- A path from the root in its usual form. -/
def normalPath (cs : List Char) : List Char :=
  let segments := ((if cs.isEmpty then ['/'] else cs).drop 1).splitOn '/'
  '/' :: List.intercalate ['/'] (takeSegments [] segments).reverse

/-- What stands after a mark, if the mark is there. -/
def after? (mark : Char) (cs : List Char) : Option (List Char) :=
  match cs.dropWhile (· != mark) with
  | [] => none
  | _ :: rest => some rest

namespace Url

/-- The URL of a scheme with usual port, from what stands after the colon. Any number of slashes
announces the host, and a backslash is a slash. -/
def ofServer? (scheme : String) (usual : Nat) (cs : List Char) : Option Url := do
  let slashed := fun (c : Char) => if c = '\\' then '/' else c
  let part := (cs.takeWhile fun c => c != '?' && c != '#').map slashed
  let part := part.dropWhile (· == '/')
  let (host, port) ← authority? (some usual) (part.takeWhile (· != '/'))
  some ⟨scheme, some host, port, normalPath (part.dropWhile (· != '/')), none, none⟩

/-- The URL of any other scheme, from what stands after the colon. -/
def ofOther? (scheme : String) (cs : List Char) : Option Url :=
  match cs.takeWhile fun c => c != '?' && c != '#' with
  | '/' :: '/' :: part => do
    let (host, port) ← authority? none (part.takeWhile (· != '/'))
    let path := part.dropWhile (· != '/')
    some ⟨scheme, some host, port, if path.isEmpty then [] else normalPath path, none, none⟩
  | '/' :: part => some ⟨scheme, none, none, normalPath ('/' :: part), none, none⟩
  | part => some ⟨scheme, none, none, percentEncode [] part, none, none⟩

/-- The URL of a text. -/
def parse? (text : String) : Option Url := do
  let isEdge := fun (c : Char) => c.toNat ≤ 0x20
  let trimmed := ((text.toList.dropWhile isEdge).reverse.dropWhile isEdge).reverse
  let cs := trimmed.filter fun c => c != '\t' && c != '\n' && c != '\r'
  let (scheme, rest) ← scheme? cs
  let url ← match serverPorts.lookup scheme with
    | some usual => ofServer? scheme usual rest
    | none => ofOther? scheme rest
  some { url with
    query := (after? '?' (rest.takeWhile (· != '#'))).map (percentEncode querySpecial)
    fragment := (after? '#' rest).map (percentEncode fragmentSpecial) }

/-- Whether a URL names a host. -/
def hasHost (url : Url) : Bool := url.host.any fun host => !host.isEmpty

/-- Whether a request can go to a URL. -/
def isWeb (url : Url) : Bool := url.scheme == "http" || url.scheme == "https"

/-- Parameters with their values. -/
def parameters (pairs : List (String × String)) : List Char :=
  List.intercalate ['&'] (pairs.map fun (name, value) => formEncode name ++ '=' :: formEncode value)

/-- A URL with more parameters after those that it has. -/
def addQuery (url : Url) (pairs : List (String × String)) : Url :=
  if pairs.isEmpty then url
  else
    match url.query with
    | none => { url with query := some (parameters pairs) }
    | some [] => { url with query := some (parameters pairs) }
    | some query => { url with query := some (query ++ '&' :: parameters pairs) }

/-- A part after a mark, if it is there. -/
def marked (mark : Char) : Option (List Char) → List Char
  | none => []
  | some cs => mark :: cs

/-- The text of a URL. -/
def text (url : Url) : String :=
  let host := match url.host with
    | none => []
    | some host => '/' :: '/' :: host
  url.scheme ++ ":" ++ String.ofList (host ++
    marked ':' (url.port.map fun port => (toString port).toList) ++ url.path ++
    marked '?' url.query ++ marked '#' url.fragment)

end Url

end PageMerge.Http
