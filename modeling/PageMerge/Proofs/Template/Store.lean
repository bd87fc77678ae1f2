import Mathlib.Data.List.DropRight
import PageMerge.Proofs.Assignment
import PageMerge.Template.Store

/-!
# Kept templates against templates that are scanned anew

What a store answers depends on what it was asked before. Title and body, and the errors of a page
that is malformed, are always those of the page that is asked for. The type of the page and its
representation are not compared with what is kept, so they are those of an earlier page: the one
that the kept template was made from.

## Main definitions

* `Request`: a page that is asked for
* `Request.source`: the request that the answer to a request is made from
* `Remembers`: a store keeps what the requests of a history say

## Main results

* `remembers_afterAll`: what a store keeps, by the requests that it has answered
* `answer_eq_template_iff`: when a store answers as if nothing was kept
-/

namespace PageMerge.TemplateStore

open PageMerge.Template (Marks)
open PageMerge.Wiki (TemplatePage)

/-! ### Requests -/

/-- A page that is asked for, with the marks of its template. -/
structure Request where
  marks : Marks
  page : TemplatePage
  deriving DecidableEq

namespace Request

/-- The template that is asked for, when nothing is kept. -/
def template (request : Request) : Except TemplateProblem Template :=
  Template.ofPage request.marks request.page

/-- Two requests have the same texts and marks. -/
def SameTexts (first second : Request) : Prop :=
  first.page.title = second.page.title ∧ first.page.body = second.page.body ∧
    first.marks = second.marks

instance (first second : Request) : Decidable (first.SameTexts second) :=
  inferInstanceAs (Decidable (_ ∧ _ ∧ _))

theorem SameTexts.trans {first second third : Request} (h : first.SameTexts second)
    (h' : second.SameTexts third) : first.SameTexts third :=
  ⟨h.1.trans h'.1, h.2.1.trans h'.2.1, h.2.2.trans h'.2.2⟩

theorem SameTexts.symm {first second : Request} (h : first.SameTexts second) :
    second.SameTexts first :=
  ⟨h.1.symm, h.2.1.symm, h.2.2.symm⟩

/-- A template in which type and representation are those of another page. -/
def withKind (page : TemplatePage) (template : Template) : Template :=
  { template with pageType := page.pageType, representation := page.representation }

/-- Requests with the same texts and marks differ in the type and the representation only. -/
theorem SameTexts.template_eq {first second : Request} (h : first.SameTexts second) :
    first.template = second.template.map (withKind first.page) := by
  obtain ⟨htitle, hbody, hmarks⟩ := h
  rw [template, template, Template.ofPage, Template.ofPage, htitle, hbody, hmarks]
  cases Template.scan second.marks second.page.title <;>
    cases Template.scan second.marks second.page.body <;> rfl

/-- The requests of a history whose templates could replace what is kept for the page of a request:
those for a page of the same identifier that is not malformed. -/
def rivals (history : List Request) (request : Request) : List Request :=
  history.filter fun earlier => earlier.page.id == request.page.id && earlier.template.isOk

/-- The request that the kept template was made from, if it is used for a request: the first one of
the last requests for the page, as far as they have the same texts and marks. -/
def source? (history : List Request) (request : Request) : Option Request :=
  ((request.rivals history).rtakeWhile fun earlier => earlier.SameTexts request).head?

/-- The request that the answer to a request is made from. -/
def source (history : List Request) (request : Request) : Request :=
  (request.source? history).getD request

/-- Another page, or a malformed one, is no source. -/
theorem source?_concat_of_not_rival {history : List Request} {request last : Request}
    (h : last.page.id = request.page.id → last.template.isOk = false) :
    request.source? (history ++ [last]) = request.source? history := by
  have hlast : (last.page.id == request.page.id && last.template.isOk) = false := by
    by_cases hid : last.page.id = request.page.id
    · rw [h hid, Bool.and_false]
    · rw [beq_false_of_ne hid, Bool.false_and]
  rw [source?, rivals, List.filter_append, List.filter_cons_of_neg (by simp [hlast]),
    List.filter_nil, List.append_nil]
  rfl

/-- A page with the same texts is the source if there was none. -/
theorem source?_concat_of_rival {history : List Request} {request last : Request}
    (hid : last.page.id = request.page.id) (hok : last.template.isOk = true) :
    request.source? (history ++ [last]) =
      if last.SameTexts request then some ((request.source? history).getD last) else none := by
  rw [source?, rivals, List.filter_append, List.filter_cons_of_pos (by simp [hid, hok]),
    List.filter_nil, List.rtakeWhile_concat, ← rivals]
  by_cases hsame : last.SameTexts request
  · rw [if_pos (by simpa using hsame), if_pos hsame, List.head?_append, ← source?]
    cases request.source? history <;> rfl
  · rw [if_neg (by simpa using hsame), if_neg hsame]
    rfl

/-- A source has the texts and marks of the request, and is not malformed. -/
theorem sameTexts_of_source? {history : List Request} {request source : Request}
    (h : request.source? history = some source) :
    source.SameTexts request ∧ source.template.isOk = true := by
  have hmem := List.mem_of_head? h
  have hrival := (List.rtakeWhile_suffix _ _).subset hmem
  exact ⟨by simpa using List.mem_rtakeWhile_imp hmem,
    (Bool.and_eq_true_iff.mp (List.mem_filter.mp hrival).2).2⟩

/-- Requests for one page with the same texts and marks have the same source. -/
theorem source?_congr {history : List Request} {first second : Request}
    (hid : first.page.id = second.page.id) (h : first.SameTexts second) :
    first.source? history = second.source? history := by
  have hsame : ∀ earlier : Request, earlier.SameTexts first ↔ earlier.SameTexts second :=
    fun earlier => ⟨fun h' => h'.trans h, fun h' => h'.trans h.symm⟩
  simp only [source?, rivals, hid, hsame]

end Request

/-! ### What is kept -/

/-- The store after a request. -/
def after (store : TemplateStore) (request : Request) : TemplateStore :=
  (store.obtain request.marks request.page).2

/-- The store after requests. -/
def afterAll (history : List Request) : TemplateStore := history.foldl after empty

/-- A kept template is used for its own page, if it has the same texts and marks. -/
theorem hit?_keep (store : TemplateStore) (kept request : Request) (parsed : ScannedTemplate) :
    (store.keep kept.page.id ⟨kept.page.title, kept.page.body, kept.marks, parsed⟩).hit?
        request.marks request.page =
      if request.page.id = kept.page.id then
        if kept.SameTexts request then some parsed else none
      else store.hit? request.marks request.page := by
  have hlookup := lookup_assigned kept.page.id request.page.id
    (KeptTemplate.mk kept.page.title kept.page.body kept.marks parsed) store.entries
  rw [hit?, keep, hlookup]
  by_cases hid : request.page.id = kept.page.id
  · rw [if_pos hid, if_pos hid]
    rfl
  · rw [if_neg hid, if_neg hid]
    rfl

/-- What is used for a page is not used for the same page with other texts or marks. -/
theorem hit?_eq_none_of_hit? {store : TemplateStore} {used request : Request}
    {parsed : ScannedTemplate} (h : store.hit? used.marks used.page = some parsed)
    (hid : request.page.id = used.page.id) (hother : ¬ used.SameTexts request) :
    store.hit? request.marks request.page = none := by
  rw [hit?] at h ⊢
  rw [hid]
  cases hlookup : store.entries.lookup used.page.id with
  | none => rfl
  | some kept =>
    rw [hlookup] at h
    dsimp only at h ⊢
    split at h
    · rename_i hused
      refine if_neg fun hrequest => hother ⟨?_, ?_, ?_⟩
      · exact hused.1.symm.trans hrequest.1
      · exact hused.2.1.symm.trans hrequest.2.1
      · exact hused.2.2.symm.trans hrequest.2.2
    · cases h

/-- What a request does to what is kept: a template that is used stays kept, as it does when the
page is malformed, and else the template of the page is kept instead. -/
theorem after_cases (store : TemplateStore) (last : Request) :
    (∃ parsed, store.hit? last.marks last.page = some parsed ∧ store.after last = store) ∨
    (last.template.isOk = false ∧ ∀ request : Request,
      (store.after last).hit? request.marks request.page =
        store.hit? request.marks request.page) ∨
    (store.hit? last.marks last.page = none ∧ ∃ parsed : ScannedTemplate,
      last.template = .ok parsed.template ∧ ∀ request : Request,
        (store.after last).hit? request.marks request.page =
          if request.page.id = last.page.id then
            if last.SameTexts request then some parsed else none
          else store.hit? request.marks request.page) := by
  rw [after, obtain]
  cases hhit : store.hit? last.marks last.page with
  | some parsed => exact .inl ⟨parsed, rfl, rfl⟩
  | none =>
    refine .inr ?_
    have htemplate : last.template = Template.ofPage last.marks last.page := rfl
    cases hpage : Template.ofPage last.marks last.page with
    | error e => exact .inl ⟨by rw [htemplate, hpage]; rfl, fun _ => rfl⟩
    | ok template =>
      refine .inr ⟨rfl, ⟨store.scanCount + 1, template⟩, htemplate.trans hpage, fun request => ?_⟩
      exact hit?_keep { store with scanCount := store.scanCount + 1 } last request _

/-- The store keeps what the requests of a history say: for each request the template of its
source. -/
def Remembers (store : TemplateStore) (history : List Request) : Prop :=
  ∀ request : Request, (store.hit? request.marks request.page).map ScannedTemplate.template =
    (request.source? history).bind fun source => source.template.toOption

/-- Nothing is used for a request without a source, and only for such a request. -/
theorem Remembers.hit?_eq_none_iff {store : TemplateStore} {history : List Request}
    (h : store.Remembers history) (request : Request) :
    store.hit? request.marks request.page = none ↔ request.source? history = none := by
  have hrequest := h request
  cases hsource : request.source? history with
  | none =>
    rw [hsource, Option.bind_none, Option.map_eq_none_iff] at hrequest
    exact iff_of_true hrequest rfl
  | some source =>
    refine iff_of_false (fun hnone => ?_) (by simp)
    rw [hsource, hnone, Option.map_none, Option.bind_some] at hrequest
    have hok := (Request.sameTexts_of_source? hsource).2
    cases htemplate : source.template with
    | error e => rw [htemplate] at hok; cases hok
    | ok template => rw [htemplate] at hrequest; cases hrequest

/-- A store that keeps what a history says keeps what it says with another request. -/
theorem Remembers.after {store : TemplateStore} {history : List Request}
    (h : store.Remembers history) (last : Request) :
    (store.after last).Remembers (history ++ [last]) := by
  intro request
  -- A request with other texts for the same page ends the use of what was kept.
  rcases after_cases store last with
    ⟨parsed, hhit, hafter⟩ | ⟨hmalformed, hafter⟩ | ⟨hhit, parsed, hok, hafter⟩
  · rw [hafter]
    by_cases hrival : last.page.id = request.page.id ∧ last.template.isOk = true
    · obtain ⟨hid, hok⟩ := hrival
      rw [Request.source?_concat_of_rival hid hok]
      split
      · -- The same texts are used again, so the source is the one that there was.
        rename_i hsame
        have hsource : last.source? history = request.source? history :=
          Request.source?_congr hid hsame
        have hsome : request.source? history ≠ none := by
          rw [← hsource]
          intro hnone
          rw [(h.hit?_eq_none_iff last).mpr hnone] at hhit
          cases hhit
        obtain ⟨source, hsource⟩ := Option.ne_none_iff_exists'.mp hsome
        rw [h request, hsource]
        rfl
      · rename_i hother
        rw [hit?_eq_none_of_hit? hhit hid.symm hother]
        rfl
    · rw [Request.source?_concat_of_not_rival fun hid => by simpa [hid] using hrival]
      exact h request
  · rw [hafter, Request.source?_concat_of_not_rival fun _ => hmalformed]
    exact h request
  · rw [hafter]
    split
    · rename_i hid
      have hisOk : last.template.isOk = true := by rw [hok]; rfl
      rw [Request.source?_concat_of_rival hid.symm hisOk]
      split
      · rename_i hsame
        have hnone : request.source? history = none :=
          (Request.source?_congr hid.symm hsame).symm.trans ((h.hit?_eq_none_iff last).mp hhit)
        rw [hnone, Option.getD_none, Option.bind_some, hok]
        rfl
      · rfl
    · rename_i hid
      rw [Request.source?_concat_of_not_rival fun hid' => absurd hid'.symm hid]
      exact h request

/-- What a store keeps, by the requests that it has answered. -/
theorem remembers_afterAll (history : List Request) : (afterAll history).Remembers history := by
  induction history using List.reverseRecOn with
  | nil => exact fun _ => rfl
  | append_singleton history last ih =>
    rw [afterAll, List.foldl_append]
    exact ih.after last

/-! ### Answers -/

/-- The template that a store answers a request with, or the errors of its page. -/
def answer (store : TemplateStore) (request : Request) : Except TemplateProblem Template :=
  (store.obtain request.marks request.page).1.map ScannedTemplate.template

/-- An answer is what the page of the request would give, but for the type and the representation,
which are those of its source. -/
theorem Remembers.answer_eq {store : TemplateStore} {history : List Request}
    (h : store.Remembers history) (request : Request) :
    store.answer request =
      request.template.map (Request.withKind (request.source history).page) := by
  rw [answer, obtain, Request.source]
  have hrequest := h request
  cases hsource : request.source? history with
  | none =>
    rw [(h.hit?_eq_none_iff request).mpr hsource, Option.getD_none]
    have hself : request.SameTexts request := ⟨rfl, rfl, rfl⟩
    rw [← hself.template_eq, Request.template]
    cases Template.ofPage request.marks request.page <;> rfl
  | some source =>
    obtain ⟨hsame, _⟩ := Request.sameTexts_of_source? hsource
    rw [Option.getD_some, ← hsame.template_eq]
    cases hhit : store.hit? request.marks request.page with
    | none => exact absurd ((h.hit?_eq_none_iff request).mp hhit) (by simp [hsource])
    | some parsed =>
      rw [hsource, hhit, Option.map_some, Option.bind_some] at hrequest
      cases htemplate : source.template with
      | error e => rw [htemplate] at hrequest; cases hrequest
      | ok template =>
        rw [htemplate] at hrequest
        exact congrArg Except.ok (Option.some.inj hrequest)

/-- After every history a store answers a request as if nothing was kept exactly if the page is
malformed, or if its type and representation are those of the source of the answer. Title and body
of the answer, and the errors, are those of the page in any case. -/
theorem answer_eq_template_iff (history : List Request) (request : Request) :
    (afterAll history).answer request =
        request.template.map (Request.withKind (request.source history).page) ∧
      ((afterAll history).answer request = request.template ↔
        (request.template.isOk = true →
          (request.source history).page.pageType = request.page.pageType ∧
          (request.source history).page.representation = request.page.representation)) := by
  have hanswer := (remembers_afterAll history).answer_eq request
  refine ⟨hanswer, ?_⟩
  rw [hanswer, Request.template, Template.ofPage]
  cases Template.scan request.marks request.page.title <;>
    cases Template.scan request.marks request.page.body <;>
      simp [Except.map, Except.isOk, Except.toBool, Request.withKind]

/-- A page whose type was changed is answered with the type that it had. -/
theorem stale_kind :
    let marks : Marks := ⟨'#', '~', by decide, by decide, by decide⟩
    let old : Request := ⟨marks, ⟨"1", "a", "b", "page", "storage"⟩⟩
    let new : Request := ⟨marks, ⟨"1", "a", "b", "blogpost", "storage"⟩⟩
    (afterAll [old]).answer new ≠ new.template := by
  decide

end PageMerge.TemplateStore
