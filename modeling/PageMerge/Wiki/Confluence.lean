import PageMerge.Config.Settings
import PageMerge.Http.Base64
import PageMerge.Http.Transport
import PageMerge.Json.Printer
import PageMerge.Json.Reader
import PageMerge.Wiki.Client

/-!
# The Confluence content API

The calls of a run as requests to a server. Every request carries the account. An answer with a
status other than success is an error with the message that the server gives. An answer of success
is noted in the log and read as JSON; nothing but blanks counts as null.

Versions are numbers of 64 bits. A page is overwritten with the version after its own, and the
program stops at the largest one, before it sends anything.

## Main definitions

* `ConfluenceApi`: where the server is and which account is used
* `ConfluenceApi.send`: a request and its reply
* `ConfluenceApi.client`: the calls of a run
-/

namespace PageMerge.Wiki

open PageMerge.Http (Method Reply Request Transport Url)
open PageMerge.Json (Value)

/-- Where the server is and which account is used. -/
structure ConfluenceApi where
  /-- The URL that identifiers of pages are appended to. -/
  baseUrl : String
  account : Config.Account

namespace ConfluenceApi

/-- The client of the settings. -/
def ofSettings (settings : Config.Settings) : ConfluenceApi :=
  ⟨settings.baseUrl, settings.account⟩

/-! ### Requests -/

/-- The header that carries the account. -/
def authorization (account : Config.Account) : String :=
  "Basic " ++ String.ofList (Http.base64
    (Text.Utf8.encode (account.username ++ ":" ++ account.token)))

/-- The headers of a request. -/
def headers (client : ConfluenceApi) (body : Option Value) : List (String × String) :=
  [("authorization", authorization client.account), ("accept", "application/json")] ++
    if body.isSome then [("content-type", "application/json")] else []

/-- The page that an article is sent as. -/
def pageMembers (article : Article) (space : String) : List (String × Value) :=
  [("type", .text article.pageType), ("title", .text article.title),
    ("space", .object [("key", .text space)]),
    ("body", .object [("storage", .object [("value", .text article.content),
      ("representation", .text article.representation)])])]

/-- The page that a parent page is given for. -/
def parentMembers : Option String → List (String × Value)
  | none => []
  | some parent => [("ancestors", .array [.object [("id", .text parent)]])]

/-- What is sent to create a page. -/
def createBody (article : Article) (space : String) (parent : Option String) : Value :=
  (Value.object (pageMembers article space ++ parentMembers parent)).canonical

/-- What is sent to overwrite a page. -/
def updateBody (page : PageVersion) (article : Article) (space : String) : Value :=
  (Value.object (pageMembers article space ++ [("id", .text page.id),
    ("version", .object [("number", .nat (page.version + 1))])])).canonical

/-! ### Replies -/

/-- What the body of an error says: its member `message` if it has one, and the whole body
otherwise. -/
def errorMessage (body : String) : String :=
  match Json.readString body with
  | .error _ => body
  | .ok value =>
    match value.member? "message" with
    | none => body
    | some .null => body
    | some (.text message) => message
    | some other => other.canonical.compact

/-- The JSON value of a reply. -/
def readReply (url : String) (target : Url) : Reply → Except CallError Value
  | .dropped => .error (.transport url s!"error sending request for url ({target.text})")
  | .cut _ => .error (.transport url "error decoding response body")
  | .answer status bytes =>
    let body := Text.Utf8.decodeLenient bytes
    if !Http.isSuccess status then .error (.status url status (errorMessage body))
    else if (Text.trim body).isEmpty then .ok .null
    else (Json.readString body).mapError fun fault => .unexpectedResponse url fault.message

/-- What the log says about a reply: answers of success are noted. -/
def replyEntries (url : String) : Reply → List Log.Entry
  | .answer status _ =>
    if Http.isSuccess status then
      [Log.debug s!"{url} answered with status {status} {Http.successText status}"]
    else []
  | _ => []

/-- A text at a place in an answer. -/
def requiredText (value : Value) (place : List String) (url : String) :
    Except CallError String :=
  match (value.at? place).bind Value.text? with
  | some text => .ok text
  | none =>
    let pointer := String.join (place.map fun name => "/" ++ name)
    .error (.unexpectedResponse url s!"missing string at '{pointer}'")

/-- The template page of an answer. -/
def readTemplate (id url : String) (page : Value) : Except CallError TemplatePage := do
  let title ← requiredText page ["title"] url
  let body ← requiredText page ["body", "storage", "value"] url
  let pageType ← requiredText page ["type"] url
  let representation ← requiredText page ["body", "storage", "representation"] url
  .ok ⟨id, title, body, pageType, representation⟩

/-- The value, or an error of an answer that is not of the expected form. -/
def expect (url reason : String) : Option α → Except CallError α
  | some a => .ok a
  | none => .error (.unexpectedResponse url reason)

/-- A number of 64 bits in decimal digits, perhaps after a plus sign. -/
def naturalOf? (text : String) : Option Nat :=
  let digits := match text.toList with
    | '+' :: rest => rest
    | cs => cs
  if digits ≠ [] ∧ digits.all Char.isDigit then
    let n := digits.foldl (fun n c => n * 10 + (c.toNat - 48)) 0
    if n < UInt64.size then some n else none
  else none

/-- The identifier that a value is. -/
def idOf? : Value → Option String
  | .text id => some id
  | .number n => some (String.ofList (Json.numberText n))
  | _ => none

/-- The version that a value is. -/
def versionOf? : Value → Option Nat
  | .text s => naturalOf? s
  | value => value.nat64?

/-- The page that an item of a search is. -/
def readFound (url : String) (item : Value) : Except CallError PageVersion := do
  let id ← expect url "missing page id" ((item.member? "id").bind idOf?)
  let version ← expect url "missing version number"
    ((item.at? ["version", "number"]).bind versionOf?)
  .ok ⟨id, version⟩

/-- What the log says about a search that counts results but lists none. -/
def noneListed (title : String) (size : Nat) : Log.Entry :=
  Log.warning s!"The search for '{title}' reported {size} results but listed none"

/-- The page that a search found, and what is logged on the way. -/
def readSearch (title url : String) (found : Value) :
    Except CallError (Option PageVersion) × List Log.Entry :=
  match (found.member? "size").bind Value.nat64? with
  | none => (.error (.unexpectedResponse url "missing result size"), [])
  | some 0 => (.ok none, [])
  | some size =>
    match found.at? ["results", "0"] with
    | none => (.error (.unexpectedResponse url "missing first result"), [noneListed title size])
    | some item => ((readFound url item).map some, [])

/-! ### Calls -/

variable {σ : Type}

/-- The error of a URL that no request can go to. -/
def badUrl (url : String) (target : Url) : CallError :=
  .transport url s!"builder error for url ({target.text})"

/-- Sends a request and reads the reply. Nothing is sent to a text that is no URL, to a URL without
host, or to one of another scheme than HTTP and HTTPS. -/
def send (client : ConfluenceApi) (transport : Transport σ) (method : Method) (url : String)
    (query : List (String × String)) (body : Option Value) :
    Activity σ (Except CallError Value) := do
  match Url.parse? url with
  | none => pure (.error (.transport url "builder error"))
  | some page => do
    let target := page.addQuery query
    if !page.hasHost then pure (.error (badUrl url page))
    else if !page.isWeb then pure (.error (badUrl url target))
    else do
      let reply ← Activity.silent (transport ⟨method, target, client.headers body, body⟩)
      Activity.logAll (replyEntries url reply)
      pure (readReply url target reply)

/-- Downloads a template. -/
def fetchTemplate (client : ConfluenceApi) (transport : Transport σ) (id : String) :
    Activity σ (Except CallError TemplatePage) := do
  let url := client.baseUrl ++ id
  let answer ← client.send transport .get url [("expand", "body.storage,space")] none
  pure (answer.bind (readTemplate id url))

/-- Looks up a page. -/
def findPage (client : ConfluenceApi) (transport : Transport σ) (title space : String) :
    Activity σ (Except CallError (Option PageVersion)) := do
  let query := [("title", title), ("spaceKey", space), ("limit", "1"), ("expand", "version")]
  match ← client.send transport .get client.baseUrl query none with
  | .error e => pure (.error e)
  | .ok found => do
    let (page, entries) := readSearch title client.baseUrl found
    Activity.logAll entries
    pure page

/-- Creates a page. -/
def create (client : ConfluenceApi) (transport : Transport σ) (article : Article)
    (space : String) (parent : Option String) : Activity σ (Except CallError Unit) := do
  let body := createBody article space parent
  let answer ← client.send transport .post client.baseUrl [] (some body)
  pure (answer.map fun _ => ())

/-- What the program says when it stops at the largest version. -/
def overflowMessage : String := "attempt to add with overflow"

/-- Overwrites a page. -/
def update (client : ConfluenceApi) (transport : Transport σ) (page : PageVersion)
    (article : Article) (space : String) : Activity σ (Except CallError Unit) := do
  Activity.demand (page.version + 1 < UInt64.size) overflowMessage
  let body := updateBody page article space
  let answer ← client.send transport .put (client.baseUrl ++ page.id) [] (some body)
  pure (answer.map fun _ => ())

/-- The calls of a run. -/
def client (confluence : ConfluenceApi) (transport : Transport σ) : WikiAccess σ where
  fetchTemplate := confluence.fetchTemplate transport
  findPage := confluence.findPage transport
  create := confluence.create transport
  update := confluence.update transport

end ConfluenceApi

end PageMerge.Wiki
