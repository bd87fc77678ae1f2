import Mathlib.Control.Monad.Basic
import PageMerge.Proofs.Failure
import PageMerge.Proofs.Http.Url
import PageMerge.Proofs.Wiki.Requests

/-!
# Versions that are searched and written

A row that overwrites a page looks it up first. What it sends then names the page that the search
has found, at the server that was searched, with the texts of the article and with the version after
the one that was found. Versions are numbers of 64 bits. The largest one is found like any other,
but there is none after it: the program stops, and the page is not overwritten.

## Main definitions

* `Overwrites`: what is sent to overwrite a page says which one, and with what
* `searchQuery`: the parameters of a search

## Main results

* `version_lt_of_readSearch`: the versions that a search finds
* `requests_of_found`: the two requests of a row that overwrites its page
* `stop?_of_found`: where the program stops in such a row
* `overwrite_follows_search`: what the requests say of the page that was found, and when the program
  stops
* `largest_version_stops`: a page that is found, and not overwritten
-/

namespace PageMerge

/-- A request can go to what continues the URL of a server that ends in a slash. -/
theorem Http.Url.isSome_target?_append {base : String} {url : Url}
    (hslash : base.endsWith "/" = true) (h : target? base = some url) (id : String) :
    (target? (base ++ id)).isSome = true := by
  obtain ⟨hparse, hhost, hweb⟩ := target?_eq_some_iff.mp h
  obtain ⟨page, hpage, hscheme, hserver, -⟩ := parse?_append hslash hparse hweb id
  rw [hasHost, ← hserver] at hhost
  rw [isWeb, ← hscheme] at hweb
  rw [target?_eq_some_iff.mpr ⟨hpage, hhost, hweb⟩, Option.isSome_some]

namespace Wiki.ConfluenceApi

open PageMerge.Http (Reply Request Transport Url)
open PageMerge.Json (Value)
open PageMerge.Upload (Plan lookUp publish stop?_lookUp uploadArticle)

/-! ### Versions -/

theorem naturalOf?_lt {text : String} {n : Nat} (h : naturalOf? text = some n) :
    n < UInt64.size := by
  rw [naturalOf?] at h
  obtain ⟨-, h⟩ := Option.ite_none_right_eq_some.mp h
  obtain ⟨hsize, heq⟩ := Option.ite_none_right_eq_some.mp h
  rw [← Option.some.inj heq]
  exact hsize

theorem nat64?_lt {value : Value} {n : Nat} (h : value.nat64? = some n) : n < UInt64.size := by
  unfold Value.nat64? at h
  split at h
  · obtain ⟨⟨hnat, hsize⟩, heq⟩ := Option.ite_none_right_eq_some.mp h
    rw [← Option.some.inj heq, Int.toNat_lt hnat]
    exact hsize
  · cases h

theorem versionOf?_lt {value : Value} {n : Nat} (h : versionOf? value = some n) :
    n < UInt64.size := by
  unfold versionOf? at h
  split at h
  · exact naturalOf?_lt h
  · exact nat64?_lt h

theorem eq_some_of_expect {α : Type} {text reason : String} {found : Option α} {a : α}
    (h : expect text reason found = .ok a) : found = some a := by
  cases found with
  | none => cases h
  | some b => rw [Except.ok.inj h]

/-- The versions that a search finds are numbers of 64 bits. -/
theorem version_lt_of_readSearch {title text : String} {found : Value} {page : PageVersion}
    (h : (readSearch title text found).1 = .ok (some page)) : page.version < UInt64.size := by
  unfold readSearch at h
  split at h
  · cases h
  · cases h
  · split at h
    · cases h
    · obtain ⟨read, hread, heq⟩ := exists_of_map_eq_ok h
      obtain rfl := Option.some.inj heq
      obtain ⟨id, -, hread⟩ := exists_of_bind_eq_ok hread
      obtain ⟨version, hversion, heq⟩ := exists_of_bind_eq_ok hread
      rw [← Except.ok.inj heq]
      obtain ⟨_, -, hversion⟩ := Option.bind_eq_some_iff.mp (eq_some_of_expect hversion)
      exact versionOf?_lt hversion

/-! ### What is sent -/

/-- What is sent names a page and has the texts of an article, with the version after the one of the
page. -/
structure Overwrites (body : Value) (page : PageVersion) (article : Article) (space : String) :
    Prop where
  id : body.member? "id" = some (.text page.id)
  version : body.at? ["version", "number"] = some (.nat (page.version + 1))
  title : body.member? "title" = some (.text article.title)
  pageType : body.member? "type" = some (.text article.pageType)
  content : body.at? ["body", "storage", "value"] = some (.text article.content)
  representation : body.at? ["body", "storage", "representation"] =
    some (.text article.representation)
  space : body.at? ["space", "key"] = some (.text space)

theorem overwrites_updateBody (page : PageVersion) (article : Article) (space : String) :
    Overwrites (updateBody page article space) page article space := by
  constructor <;> rfl

/-! ### Two requests -/

section Requests

variable {σ : Type} (client : ConfluenceApi) (transport : Transport σ) (title space : String)

/-- The parameters of a search. -/
def searchQuery (title space : String) : List (String × String) :=
  [("title", title), ("spaceKey", space), ("limit", "1"), ("expand", "version")]

/-- A search sends one request, and reads its reply. -/
theorem run_findPage {url : Url} (h : Url.target? client.baseUrl = some url) (s : σ) :
    let request : Request :=
      ⟨.get, url.addQuery (searchQuery title space), client.headers none, none⟩
    let searched := (client.findPage transport title space).run s
    searched.state = (transport request s).2 ∧ searched.value =
      (readReply client.baseUrl request.url (transport request s).1).bind fun found =>
        (readSearch title client.baseUrl found).1 := by
  have hsend := client.run_send transport .get (searchQuery title space) none s h
  rw [searchQuery] at hsend
  simp only [findPage, searchQuery, Activity.run_bind, hsend]
  cases readReply client.baseUrl _ _ <;> exact ⟨rfl, rfl⟩

/-- The program does not stop in a search. -/
theorem steady_findPage : (client.findPage transport title space).Steady := by
  refine (client.steady_send transport _ _ _ _).bind ?_
  rintro (e | found)
  · exact Activity.steady_pure _
  · exact (Activity.steady_logAll _).bind fun _ => Activity.steady_pure _

/-- A search that has found a page was sent to its URL, and read the reply. -/
theorem exists_of_found {client : ConfluenceApi} {transport : Transport σ} {title space : String}
    {s : σ} {page : PageVersion}
    (h : ((client.findPage transport title space).run s).value = .ok (some page)) :
    page.version < UInt64.size ∧ ∃ url, Url.target? client.baseUrl = some url := by
  cases htarget : Url.target? client.baseUrl with
  | none =>
    obtain ⟨e, hsend⟩ :=
      client.run_send_of_no_target transport .get (searchQuery title space) none s htarget
    rw [searchQuery] at hsend
    simp only [findPage, Activity.run_bind, hsend] at h
    cases h
  | some url =>
    obtain ⟨-, hvalue⟩ := client.run_findPage transport title space htarget s
    rw [hvalue] at h
    obtain ⟨found, -, hread⟩ := exists_of_bind_eq_ok h
    exact ⟨version_lt_of_readSearch hread, url, rfl⟩

/-- The same is found while the requests are kept. -/
theorem findPage_recorded {url : Url} (h : Url.target? client.baseUrl = some url) (s : σ)
    (sent : List Request) :
    let request : Request :=
      ⟨.get, url.addQuery (searchQuery title space), client.headers none, none⟩
    let searched := (client.findPage transport.recorded title space).run (s, sent)
    searched.state = (((client.findPage transport title space).run s).state, sent ++ [request]) ∧
      searched.value = ((client.findPage transport title space).run s).value := by
  obtain ⟨hstate, hvalue⟩ := client.run_findPage transport title space h s
  obtain ⟨hrecorded, hsame⟩ := client.run_findPage transport.recorded title space h (s, sent)
  dsimp only at hstate hvalue hrecorded hsame ⊢
  rw [hstate, hvalue, hrecorded, hsame]
  exact ⟨rfl, rfl⟩

end Requests

/-- A row whose page was looked up goes on with what was found. -/
theorem run_uploadArticle_of_found {σ : Type} (wiki : WikiAccess σ) {article : Article}
    {plan : Plan} {s : σ} {found : Option PageVersion}
    (h : ((wiki.findPage article.title plan.space).run s).value = .ok found) :
    ((uploadArticle wiki article plan).run s).state = ((publish wiki article plan found).run
      ((wiki.findPage article.title plan.space).run s).state).state := by
  simp only [uploadArticle, lookUp, Activity.run_bind, h]
  rfl

/-- After a search in which the program does not stop, a row stops it where it writes the page. -/
theorem stop?_uploadArticle_of_found {σ : Type} (wiki : WikiAccess σ) {article : Article}
    {plan : Plan} {s : σ} {found : Option PageVersion}
    (hsteady : (wiki.findPage article.title plan.space).Steady)
    (h : ((wiki.findPage article.title plan.space).run s).value = .ok found) :
    ∃ events, (uploadArticle wiki article plan).stop? s = ((publish wiki article plan found).stop?
      ((wiki.findPage article.title plan.space).run s).state).map (Stop.after events) := by
  refine ⟨((lookUp wiki article plan).run s).events, ?_⟩
  have hlookUp : (lookUp wiki article plan).stop? s = none := by
    rw [stop?_lookUp]
    exact hsteady s
  have hvalue : ((lookUp wiki article plan).run s).value = .ok found := by
    simp only [lookUp, Activity.run_bind, h, Activity.run_pure]
  have hstate : ((lookUp wiki article plan).run s).state =
      ((wiki.findPage article.title plan.space).run s).state := by
    simp only [lookUp, Activity.run_bind, h, Activity.run_pure]
  rw [uploadArticle, Activity.stop?_bind, hlookUp]
  simp only [hvalue, hstate]

/-- A row that overwrites the page that its search has found sends the search and what overwrites
this page. -/
theorem requests_of_found {σ : Type} {client : ConfluenceApi} {transport : Transport σ}
    {article : Article} {plan : Plan} {s : σ} {page : PageVersion} {base url : Url}
    (hplan : plan.overwriteExisting = true) (hbase : Url.target? client.baseUrl = some base)
    (hurl : Url.target? (client.baseUrl ++ page.id) = some url)
    (hfound : ((client.findPage transport article.title plan.space).run s).value =
      .ok (some page)) :
    let body := updateBody page article plan.space
    ((uploadArticle (client.client transport.recorded) article plan).run (s, [])).state.2 =
      [⟨.get, base.addQuery (searchQuery article.title plan.space), client.headers none, none⟩,
        ⟨.put, url, client.headers (some body), some body⟩] := by
  intro body
  have hput : client.writeRequest? article plan (some page) =
      some ⟨.put, url, client.headers (some body), some body⟩ := by
    rw [writeRequest?, writeUrl, hurl]
    rfl
  obtain ⟨hsearched, hsame⟩ :=
    client.findPage_recorded transport article.title plan.space hbase s []
  -- The search finds the same while requests are kept, so the row goes on with this page.
  rw [← hsame] at hfound
  have hrow := run_uploadArticle_of_found (client.client transport.recorded) hfound
  have hsearch : (client.client transport.recorded).findPage =
      client.findPage transport.recorded := rfl
  obtain ⟨hwritten, -⟩ := run_publish client transport.recorded article plan (some page)
    ((client.findPage transport.recorded article.title plan.space).run (s, [])).state
    fun _ => hplan
  rw [hsearch, hwritten, run_writeCall client transport.recorded article plan _ hput,
    hsearched] at hrow
  exact congrArg Prod.snd hrow

/-- A row that overwrites the page that its search has found stops the program exactly if this page
has the largest version, and then it has sent the search and nothing else. -/
theorem stop?_of_found {σ : Type} {client : ConfluenceApi} {transport : Transport σ}
    {article : Article} {plan : Plan} {s : σ} {page : PageVersion} {base : Url}
    (hplan : plan.overwriteExisting = true) (hbase : Url.target? client.baseUrl = some base)
    (hfound : ((client.findPage transport article.title plan.space).run s).value =
      .ok (some page)) :
    let row := uploadArticle (client.client transport.recorded) article plan
    let search : Request :=
      ⟨.get, base.addQuery (searchQuery article.title plan.space), client.headers none, none⟩
    (row.stop? (s, []) = none ↔ page.version + 1 < UInt64.size) ∧
      ∀ stop, row.stop? (s, []) = some stop →
        stop.message = overflowMessage ∧ stop.state.2 = [search] := by
  intro row search
  obtain ⟨hsearched, hsame⟩ :=
    client.findPage_recorded transport article.title plan.space hbase s []
  rw [← hsame] at hfound
  obtain ⟨events, hstop⟩ := stop?_uploadArticle_of_found (client.client transport.recorded)
    (client.steady_findPage transport.recorded _ _) hfound
  have hsearch : (client.client transport.recorded).findPage =
      client.findPage transport.recorded := rfl
  rw [hsearch, hsearched, stop?_publish client transport.recorded article plan (some page) _
    fun _ => hplan] at hstop
  rw [← hasNextVersion_some_iff]
  by_cases hnext : HasNextVersion (some page)
  · rw [if_pos hnext, Option.map_none] at hstop
    refine ⟨iff_of_true hstop hnext, fun stop h => ?_⟩
    cases hstop.symm.trans h
  · rw [if_neg hnext, Option.map_some] at hstop
    refine ⟨iff_of_false (fun h => ?_) hnext, fun stop h => ?_⟩
    · cases hstop.symm.trans h
    · cases hstop.symm.trans h
      exact ⟨rfl, rfl⟩

/-- A row that overwrites the page that its search has found stops the program exactly if there is
no version after the one that was found, and then it has sent the search and nothing else. If it
does not, it sends two requests: the search, and the one that overwrites this page with the version
after the one that was found, to the URL of the server followed by the identifier of the page. That
is a URL for requests if the one of the server ends in a slash. -/
theorem overwrite_follows_search {σ : Type} {client : ConfluenceApi} {transport : Transport σ}
    {article : Article} {plan : Plan} {s : σ} {page : PageVersion}
    (hplan : plan.overwriteExisting = true)
    (hfound : ((client.findPage transport article.title plan.space).run s).value =
      .ok (some page)) :
    let row := uploadArticle (client.client transport.recorded) article plan
    let body := updateBody page article plan.space
    ∃ base, Url.target? client.baseUrl = some base ∧
      let search : Request :=
        ⟨.get, base.addQuery (searchQuery article.title plan.space), client.headers none, none⟩
      Overwrites body page article plan.space ∧ page.version < UInt64.size ∧
      (client.baseUrl.endsWith "/" = true →
        (Url.target? (client.baseUrl ++ page.id)).isSome = true) ∧
      (row.stop? (s, []) = none ↔ page.version + 1 < UInt64.size) ∧
      (row.stop? (s, []) = none → ∀ url, Url.target? (client.baseUrl ++ page.id) = some url →
        (row.run (s, [])).state.2 = [search, ⟨.put, url, client.headers (some body), some body⟩]) ∧
      ∀ stop, row.stop? (s, []) = some stop →
        stop.message = overflowMessage ∧ stop.state.2 = [search] := by
  intro row body
  obtain ⟨hversion, base, hbase⟩ := exists_of_found hfound
  obtain ⟨hiff, hstop⟩ := stop?_of_found hplan hbase hfound
  refine ⟨base, hbase, overwrites_updateBody page article plan.space, hversion, ?_, hiff, ?_, hstop⟩
  · exact fun hslash => Url.isSome_target?_append hslash hbase page.id
  · exact fun _ url hurl => requests_of_found hplan hbase hurl hfound

/-- A server that finds a page of a version, and accepts whatever is sent. -/
def sampleServer (number : String) : Transport Unit := fun request sent =>
  let found := "\x7b\"size\":1,\"results\":[\x7b\"id\":7,\"version\":\x7b\"number\":" ++ number ++
    "\x7d\x7d]\x7d"
  (.answer 200 (if request.method = .get then Text.Utf8.encode found else []), sent)

/-- A page of version 41 is overwritten with version 42. -/
theorem overwrite_follows_search_text :
    let plan : Plan := ⟨"DOCS", none, true, 1⟩
    let row := uploadArticle (sampleApi.client (sampleServer "\"41\"").recorded) sampleArticle plan
    row.stop? ((), []) = none ∧ ∃ search put body,
      (row.run ((), [])).state.2 = [search, put] ∧ put.body = some body ∧
        body.at? ["version", "number"] = some (.nat 42) := by
  intro plan row
  have hfound : ((sampleApi.findPage (sampleServer "\"41\"") sampleArticle.title plan.space).run
      ()).value = .ok (some ⟨"7", 41⟩) := by
    decide +kernel
  obtain ⟨base, -, hbody, -, htarget, hiff, hrequests, -⟩ := overwrite_follows_search rfl hfound
  obtain ⟨url, hurl⟩ := Option.isSome_iff_exists.mp (htarget (by decide +kernel))
  have hgoing := hiff.mpr (by decide)
  exact ⟨hgoing, _, _, _, hrequests hgoing url hurl, rfl, hbody.version⟩

/-- A page of the largest version is found, and the program stops before it is overwritten. -/
theorem largest_version_stops :
    let largest := 18446744073709551615
    let transport := sampleServer "18446744073709551615"
    let plan : Plan := ⟨"DOCS", none, true, 1⟩
    let row := uploadArticle (sampleApi.client transport.recorded) sampleArticle plan
    ((sampleApi.findPage transport sampleArticle.title plan.space).run ()).value =
        .ok (some ⟨"7", largest⟩) ∧
      (row.stop? ((), [])).map (fun stop => (stop.message, stop.state.2.map Request.method)) =
        some ("attempt to add with overflow", [.get]) := by
  decide +kernel

end Wiki.ConfluenceApi

end PageMerge
