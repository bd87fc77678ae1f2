import PageMerge.Proofs.Assignment
import PageMerge.Wiki.Memory

/-!
# Calls to a wiki in memory

What a call to a wiki in memory answers, and what it leaves as it is. A call about a title writes at
most the page of that title in one space, and what it answers depends on that page and on the
injected failures only.

## Main definitions

* `PageText`, `MemoryPage.text`: a page without its identifier
* `RecordedCall.title?`: the title that a call is about
* `Touches key before after`: a wiki after calls about the page at `key`

## Main results

* `MemoryWiki.page?_put`: a place holds the page that was put there last
* `create_cases`, `update_cases`: what a call answers, and what it does to the pages
* `Touches.trans`: calls about one page, one after the other
* `touches_findPage`, `touches_create`, `touches_update`: a call touches its own page only
-/

namespace PageMerge.Wiki

/-- A page without its identifier. -/
structure PageText where
  version : Nat
  content : String
  parentId : Option String
  deriving DecidableEq, Repr

/-- The page without its identifier. -/
def MemoryPage.text (page : MemoryPage) : PageText := ⟨page.version, page.content, page.parentId⟩

/-- The page as a look-up gives it. -/
def MemoryPage.found (page : MemoryPage) : PageVersion := ⟨page.id, page.version⟩

/-- The title that a call looks up or writes; a template is fetched by its identifier. -/
def RecordedCall.title? : RecordedCall → Option String
  | .fetchTemplate _ => none
  | .findPage title => some title
  | .create title => some title
  | .update title => some title

namespace MemoryWiki

variable (wiki : MemoryWiki) (key : PageKey) (page : MemoryPage)

/-! ### Pages -/

/-- A place holds the page that was put there last; every other place keeps its page. -/
theorem page?_put (other : PageKey) :
    (wiki.put key page).page? other = if other = key then some page else wiki.page? other :=
  lookup_assigned key other page wiki.pages

@[simp] theorem page?_put_self : (wiki.put key page).page? key = some page := by
  simp [page?_put]

@[simp] theorem failures_put : (wiki.put key page).failures = wiki.failures := rfl

@[simp] theorem template_put : (wiki.put key page).template = wiki.template := rfl

@[simp] theorem calls_put : (wiki.put key page).calls = wiki.calls := rfl

@[simp] theorem page?_record (call : RecordedCall) (other : PageKey) :
    (wiki.record call).page? other = wiki.page? other := rfl

@[simp] theorem injected?_record (call : RecordedCall) (title : String)
    (stage : Upload.FailedCall) :
    (wiki.record call).injected? title stage = wiki.injected? title stage := rfl

/-- Injected failures are all that decides whether a call is made to fail. -/
theorem injected?_congr {wiki other : MemoryWiki} (h : wiki.failures = other.failures)
    (title : String) (stage : Upload.FailedCall) :
    wiki.injected? title stage = other.injected? title stage := by
  simp only [injected?, h]

/-! ### What a call answers -/

/-- A page is not created, and then nothing changes but the calls, or it is created where no page
was. -/
theorem create_cases (article : Article) (space : String) (parent : Option String) :
    (∃ e, create article space parent wiki = (.error e, wiki.record (.create article.title))) ∨
    wiki.page? ⟨space, article.title⟩ = none ∧
      create article space parent wiki = (.ok (), (wiki.record (.create article.title)).putNew
        ⟨space, article.title⟩ article.content parent) := by
  simp only [create, page?_record, injected?_record]
  cases wiki.injected? article.title .create with
  | some e => exact .inl ⟨e, rfl⟩
  | none =>
    cases wiki.page? ⟨space, article.title⟩ with
    | some stored => exact .inl ⟨_, rfl⟩
    | none => exact .inr ⟨rfl, rfl⟩

/-- A page is not overwritten, and then nothing changes but the calls, or the page that stands at
the place is the one that the caller knows, in the version that the caller knows. -/
theorem update_cases (found : PageVersion) (article : Article) (space : String) :
    (∃ e, update found article space wiki = (.error e, wiki.record (.update article.title))) ∨
    ∃ stored, wiki.page? ⟨space, article.title⟩ = some stored ∧ stored.found = found ∧
      update found article space wiki = (.ok (), (wiki.record (.update article.title)).put
        ⟨space, article.title⟩
        { stored with version := stored.version + 1, content := article.content }) := by
  simp only [update, page?_record, injected?_record]
  cases wiki.injected? article.title .update with
  | some e => exact .inl ⟨e, rfl⟩
  | none =>
    cases hstored : (wiki.page? ⟨space, article.title⟩).filter (·.id == found.id) with
    | none => exact .inl ⟨_, rfl⟩
    | some stored =>
      obtain ⟨hpage, hid⟩ := Option.filter_eq_some_iff.mp hstored
      dsimp only
      split
      · next hversion =>
        have hfound : stored.found = found := by
          rw [MemoryPage.found, hversion, eq_of_beq hid]
        exact .inr ⟨stored, hpage, hfound, rfl⟩
      · exact .inl ⟨_, rfl⟩

/-- Where no page is, a page is created unless the call was made to fail. -/
theorem create_of_none {article : Article} {space : String}
    (h : wiki.page? ⟨space, article.title⟩ = none) (parent : Option String) :
    create article space parent wiki =
      match wiki.injected? article.title .create with
      | some e => (.error e, wiki.record (.create article.title))
      | none => (.ok (), (wiki.record (.create article.title)).putNew ⟨space, article.title⟩
          article.content parent) := by
  simp only [create, page?_record, injected?_record, h]
  cases wiki.injected? article.title .create <;> rfl

/-- A page is overwritten by who knows its present version, unless the call was made to fail. -/
theorem update_of_found {article : Article} {space : String} {stored : MemoryPage}
    (h : wiki.page? ⟨space, article.title⟩ = some stored) :
    update stored.found article space wiki =
      match wiki.injected? article.title .update with
      | some e => (.error e, wiki.record (.update article.title))
      | none => (.ok (), (wiki.record (.update article.title)).put ⟨space, article.title⟩
          { stored with version := stored.version + 1, content := article.content }) := by
  simp only [update, page?_record, injected?_record, h, MemoryPage.found, Option.filter,
    beq_self_eq_true, if_true]
  cases wiki.injected? article.title .update <;> simp

/-! ### What a call leaves as it is -/

/-- The wiki after calls about the page at a place: template and failures are what they were, every
other page is as it was, and the calls that were recorded are about the title of that place. -/
structure Touches (key : PageKey) (before after : MemoryWiki) : Prop where
  template : after.template = before.template
  failures : after.failures = before.failures
  page? : ∀ other, other ≠ key → after.page? other = before.page? other
  calls : ∃ made, after.calls = before.calls ++ made ∧ ∀ call ∈ made, call.title? = some key.title

theorem Touches.refl (key : PageKey) (wiki : MemoryWiki) : Touches key wiki wiki :=
  ⟨rfl, rfl, fun _ _ => rfl, [], by simp, by simp⟩

/-- Calls of a kind, and then others of that kind. -/
theorem calls_trans {kind : RecordedCall → Prop} {first second third : MemoryWiki}
    (h : ∃ made, second.calls = first.calls ++ made ∧ ∀ call ∈ made, kind call)
    (h' : ∃ made, third.calls = second.calls ++ made ∧ ∀ call ∈ made, kind call) :
    ∃ made, third.calls = first.calls ++ made ∧ ∀ call ∈ made, kind call := by
  obtain ⟨made, hmade, hkind⟩ := h
  obtain ⟨made', hmade', hkind'⟩ := h'
  refine ⟨made ++ made', by rw [hmade', hmade, List.append_assoc], ?_⟩
  intro call hcall
  rcases List.mem_append.mp hcall with hcall | hcall
  · exact hkind call hcall
  · exact hkind' call hcall

theorem Touches.trans {key : PageKey} {first second third : MemoryWiki}
    (h : Touches key first second) (h' : Touches key second third) : Touches key first third where
  template := h'.template.trans h.template
  failures := h'.failures.trans h.failures
  page? other hne := (h'.page? other hne).trans (h.page? other hne)
  calls := calls_trans h.calls h'.calls

/-- A call that is only recorded. -/
theorem touches_record {key : PageKey} {call : RecordedCall} (h : call.title? = some key.title) :
    Touches key wiki (wiki.record call) :=
  ⟨rfl, rfl, fun _ _ => rfl, [call], rfl, by simpa using h⟩

/-- A page that is put at the place. -/
theorem touches_put : Touches key wiki (wiki.put key page) :=
  ⟨rfl, rfl, fun other hne => by rw [page?_put, if_neg hne], [], by simp, by simp⟩

theorem touches_putNew (content : String) (parent : Option String) :
    Touches key wiki (wiki.putNew key content parent) := by
  have hcount : Touches key wiki { wiki with lastId := wiki.lastId + 1 } :=
    ⟨rfl, rfl, fun _ _ => rfl, [], by simp, by simp⟩
  exact hcount.trans (touches_put ..)

variable (article : Article) (space : String)

/-- Looking up a title changes no page. -/
theorem touches_findPage (title : String) :
    Touches ⟨space, title⟩ wiki (findPage title space wiki).2 :=
  touches_record wiki rfl

/-- Creating a page touches only the page of the article. -/
theorem touches_create (parent : Option String) :
    Touches ⟨space, article.title⟩ wiki (create article space parent wiki).2 := by
  have hcall : Touches ⟨space, article.title⟩ wiki (wiki.record (.create article.title)) :=
    touches_record wiki rfl
  rcases create_cases wiki article space parent with ⟨e, h⟩ | ⟨_, h⟩
  · rw [h]
    exact hcall
  · rw [h]
    exact hcall.trans (touches_putNew ..)

/-- Overwriting a page touches only the page of the article. -/
theorem touches_update (found : PageVersion) :
    Touches ⟨space, article.title⟩ wiki (update found article space wiki).2 := by
  have hcall : Touches ⟨space, article.title⟩ wiki (wiki.record (.update article.title)) :=
    touches_record wiki rfl
  rcases update_cases wiki found article space with ⟨e, h⟩ | ⟨stored, _, _, h⟩
  · rw [h]
    exact hcall
  · rw [h]
    exact hcall.trans (touches_put ..)

end MemoryWiki

end PageMerge.Wiki
