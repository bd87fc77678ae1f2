import PageMerge.Proofs.Upload.Steady
import PageMerge.Wiki.Confluence

/-!
# Requests of calls

Each call of the content API sends one request, or none if no request can go to its URL. What the
call leads to is read from the reply, and the way to the server is left as the request has left it.
The program stops only where a page of the largest version is to be overwritten, and before it sends
anything.

## Main definitions

* `Http.Transport.recorded`: a way to a server that keeps the requests
* `Http.Url.target?`: the URL that a request can go to
* `ConfluenceApi.writeCall`, `ConfluenceApi.writeRequest?`: the call that writes a page, and its
  request
* `ConfluenceApi.HasNextVersion`: the page that is overwritten, if any, has no largest version

## Main results

* `ConfluenceApi.run_send`, `ConfluenceApi.run_send_of_no_target`: a request is sent, or none
* `ConfluenceApi.run_writeCall`: the request of a call that writes a page
* `ConfluenceApi.stop?_writeCall`, `ConfluenceApi.stop?_publish`: where the program stops
* `ConfluenceApi.run_publish`: a row ends as the call that writes its page does
-/

namespace PageMerge

/-! ### Where requests go -/

namespace Http

/-- A way to a server that keeps the requests, in their order. -/
def Transport.recorded {σ : Type} (transport : Transport σ) : Transport (σ × List Request) :=
  fun request state =>
    let replied := transport request state.1
    (replied.1, replied.2, state.2 ++ [request])

/-- The URL of a text, if a request can go to it. -/
def Url.target? (text : String) : Option Url :=
  (Url.parse? text).filter fun url => url.hasHost && url.isWeb

theorem Url.target?_eq_some_iff {text : String} {url : Url} :
    Url.target? text = some url ↔
      Url.parse? text = some url ∧ url.hasHost = true ∧ url.isWeb = true := by
  rw [Url.target?, Option.filter_eq_some_iff, Bool.and_eq_true]

end Http

namespace Wiki.ConfluenceApi

open PageMerge.Http (Method Reply Request Transport Url)
open PageMerge.Json (Value)
open PageMerge.Upload (Outcome Plan createPage publish stop?_createPage stop?_updatePage updatePage)

variable {σ : Type} (client : ConfluenceApi) (transport : Transport σ)

/-! ### One request -/

section Send

variable (method : Method) (query : List (String × String)) (body : Option Value) (s : σ)

/-- One request is sent, and its reply is read. -/
theorem run_send {text : String} {url : Url} (h : Url.target? text = some url) :
    let request : Request := ⟨method, url.addQuery query, client.headers body, body⟩
    (client.send transport method text query body).run s =
      ⟨readReply text request.url (transport request s).1, (transport request s).2,
        (replyEntries text (transport request s).1).map .log⟩ := by
  obtain ⟨hparse, hhost, hweb⟩ := Url.target?_eq_some_iff.mp h
  simp only [send, hparse, hhost, hweb, Bool.not_true, Bool.false_eq_true, if_false,
    Activity.run_bind, Activity.run_pure, List.append_nil]
  rfl

/-- Nothing is sent to a text that is no URL for requests. -/
theorem run_send_of_no_target {text : String} (h : Url.target? text = none) :
    ∃ e, (client.send transport method text query body).run s = ⟨.error e, s, []⟩ := by
  rw [send]
  cases hparse : Url.parse? text with
  | none => exact ⟨_, rfl⟩
  | some url =>
    rw [Url.target?, hparse, Option.filter_eq_none_iff] at h
    have hunfit : ¬(url.hasHost && url.isWeb) = true := h url rfl
    cases hhost : url.hasHost with
    | false => exact ⟨badUrl text url, by simp [hhost]⟩
    | true =>
      have hweb : url.isWeb = false := by simpa [hhost] using hunfit
      exact ⟨badUrl text (url.addQuery query), by simp [hhost, hweb]⟩

/-- The program does not stop while it sends a request. -/
theorem steady_send (text : String) : (client.send transport method text query body).Steady := by
  rw [send]
  cases Url.parse? text with
  | none => exact Activity.steady_pure _
  | some url =>
    dsimp only
    split
    · exact Activity.steady_pure _
    · split
      · exact Activity.steady_pure _
      · exact (Activity.steady_silent _).bind fun _ =>
          (Activity.steady_logAll _).bind fun _ => Activity.steady_pure _

end Send

/-! ### Calls that write a page -/

section Write

variable (article : Article) (plan : Plan)

/-- The call that writes the page of an article: it is created if no page was found, and else
overwritten. -/
def writeCall : Option PageVersion → Activity σ (Except CallError Unit)
  | none => client.create transport article plan.space plan.parentPageId
  | some page => client.update transport page article plan.space

/-- The text of the URL that a page is written to. -/
def writeUrl : Option PageVersion → String
  | none => client.baseUrl
  | some page => client.baseUrl ++ page.id

/-- What is sent to write a page. -/
def writeBody (article : Article) (plan : Plan) : Option PageVersion → Value
  | none => createBody article plan.space plan.parentPageId
  | some page => updateBody page article plan.space

/-- The request that writes a page, unless no request can go to its URL. -/
def writeRequest? (found : Option PageVersion) : Option Request :=
  (Url.target? (client.writeUrl found)).map fun url =>
    let body := some (writeBody article plan found)
    ⟨if found.isSome then .put else .post, url, client.headers body, body⟩

/-- The page that is overwritten, if any, has a version with a next one. -/
def HasNextVersion (found : Option PageVersion) : Prop :=
  ∀ page ∈ found, page.version + 1 < UInt64.size

instance (found : Option PageVersion) : Decidable (HasNextVersion found) :=
  inferInstanceAs (Decidable (∀ page ∈ found, page.version + 1 < UInt64.size))

theorem hasNextVersion_none : HasNextVersion none := by simp [HasNextVersion]

theorem hasNextVersion_some_iff (page : PageVersion) :
    HasNextVersion (some page) ↔ page.version + 1 < UInt64.size := by
  simp [HasNextVersion]

/-- A call that writes a page needs the next version, and then sends a request. -/
theorem writeCall_eq (found : Option PageVersion) :
    client.writeCall transport article plan found =
      Activity.demand (HasNextVersion found) overflowMessage >>= fun () =>
        client.send transport (if found.isSome then .put else .post) (client.writeUrl found) []
          (some (writeBody article plan found)) >>= fun answer =>
            pure (answer.map fun _ => ()) := by
  cases found with
  | none =>
    rw [Activity.demand_of_holds hasNextVersion_none, pure_bind]
    rfl
  | some page =>
    rw [Activity.demand_congr (hasNextVersion_some_iff page)]
    rfl

/-- The program stops in a call that writes a page exactly if there is no next version, and then it
has sent nothing. -/
theorem stop?_writeCall (found : Option PageVersion) (s : σ) :
    (client.writeCall transport article plan found).stop? s =
      if HasNextVersion found then none else some ⟨overflowMessage, s, []⟩ := by
  rw [writeCall_eq]
  have hsend := client.steady_send transport (if found.isSome then .put else .post) []
    (some (writeBody article plan found)) (client.writeUrl found)
  exact (hsend.bind fun _ => Activity.steady_pure _).stop?_demand_bind _ _ s

/-- A call that writes a page sends its request, and fails if the reply cannot be read. -/
theorem run_writeCall {found : Option PageVersion} {request : Request} (s : σ)
    (h : client.writeRequest? article plan found = some request) :
    let reply := transport request s
    (client.writeCall transport article plan found).run s =
      ⟨(readReply (client.writeUrl found) request.url reply.1).map fun _ => (), reply.2,
        (replyEntries (client.writeUrl found) reply.1).map .log⟩ := by
  obtain ⟨url, htarget, rfl⟩ := Option.map_eq_some_iff.mp h
  simp only [writeCall_eq, Activity.run_bind, Activity.run_demand,
    client.run_send transport _ [] _ s htarget, Activity.run_pure, List.append_nil,
    List.nil_append]
  rfl

/-- How a row ends after the call that wrote its page. -/
def writtenOutcome (found : Option PageVersion) : Except CallError Unit → Outcome
  | .ok () => if found.isSome then .updated else .created
  | .error e => .failed (if found.isSome then .update else .create) e.message

/-- A row that writes its page ends as the call does, and does nothing else to the server. -/
theorem run_publish (found : Option PageVersion) (s : σ)
    (hplan : found.isSome = true → plan.overwriteExisting = true) :
    let called := (client.writeCall transport article plan found).run s
    let row := (publish (client.client transport) article plan found).run s
    row.state = called.state ∧ row.value = writtenOutcome found called.value := by
  cases found with
  | none =>
    have hcall : (client.client transport).create article plan.space plan.parentPageId =
        client.writeCall transport article plan none := rfl
    simp only [publish, createPage, hcall, Activity.run_bind]
    cases ((client.writeCall transport article plan none).run s).value <;> exact ⟨rfl, rfl⟩
  | some page =>
    have hcall : (client.client transport).update page article plan.space =
        client.writeCall transport article plan (some page) := rfl
    have hlog : ∀ entry : Log.Entry, ((Activity.log entry).run s).state = s := fun _ => rfl
    simp only [publish, if_pos (hplan rfl), updatePage, hcall, Activity.run_bind, hlog]
    cases ((client.writeCall transport article plan (some page)).run s).value <;> exact ⟨rfl, rfl⟩

/-- The program stops in a row that writes its page exactly if there is no next version. -/
theorem stop?_publish (found : Option PageVersion) (s : σ)
    (hplan : found.isSome = true → plan.overwriteExisting = true) :
    (publish (client.client transport) article plan found).stop? s =
      if HasNextVersion found then none
      else some ⟨overflowMessage, s, [.log (Upload.overwriteNotice article)]⟩ := by
  have hcalls := client.stop?_writeCall transport article plan found s
  cases found with
  | none =>
    rw [if_pos hasNextVersion_none] at hcalls ⊢
    rw [publish, stop?_createPage]
    exact hcalls
  | some page =>
    have hcall : (client.client transport).update page article plan.space =
        client.writeCall transport article plan (some page) := rfl
    rw [publish, if_pos (hplan rfl), stop?_updatePage, hcall, hcalls]
    split <;> rfl

theorem needsRetry_writtenOutcome (found : Option PageVersion) (called : Except CallError Unit) :
    (writtenOutcome found called).needsRetry = !called.isOk := by
  cases called <;> cases found <;> rfl

end Write

/-! ### A server and an article -/

/-- A server at an address that is used in examples. -/
def sampleApi : ConfluenceApi := ⟨"http://wiki.test/rest/api/content/", ⟨"user", "secret"⟩⟩

/-- An article for its page. -/
def sampleArticle : Article := ⟨"1", "Item 1", "<p>Apple</p>", "page", "storage"⟩

end Wiki.ConfluenceApi

end PageMerge
