import PageMerge.Proofs.Wiki.Memory
import PageMerge.Upload.Row

/-!
# A row in a wiki in memory

How a row ends is decided by the page of its title and by the injected failures, as they are when
the row is started. A row that is under way is on course for that outcome, whatever happens to the
other pages meanwhile.

## Main definitions

* `outcomeIn`, `textAfter`: how a row ends in a wiki, and the text of its page then
* `OnCourse origin plan article page progress`: a row that was started in the wiki `origin` and has
  come so far, when the page of its title is `page`

## Main results

* `touches_next`: a step of a row touches the page of its title only
* `OnCourse.next`: a step keeps a row on course
* `onCourse_uploadArticle`: all calls of a row lead to the outcome that was decided at its start
-/

namespace PageMerge.Upload

open PageMerge.Wiki (Article MemoryPage MemoryWiki PageKey PageText PageVersion)
open PageMerge.Wiki.MemoryWiki (Touches)

/-- The place of the page of an article. -/
def Plan.keyOf (plan : Plan) (article : Article) : PageKey := ⟨plan.space, article.title⟩

/-- How a row ends in a wiki where nothing else touches the page of its title. -/
def outcomeIn (wiki : MemoryWiki) (plan : Plan) (article : Article) : Outcome :=
  match wiki.injected? article.title .existenceCheck, wiki.page? (plan.keyOf article) with
  | some e, _ => .failed .existenceCheck e.message
  | none, none =>
    match wiki.injected? article.title .create with
    | some e => .failed .create e.message
    | none => .created
  | none, some _ =>
    if plan.overwriteExisting then
      match wiki.injected? article.title .update with
      | some e => .failed .update e.message
      | none => .updated
    else .skippedExisting

/-- The text of the page of a title after its row ended. -/
def textAfter (wiki : MemoryWiki) (plan : Plan) (article : Article) : Option PageText :=
  let present := (wiki.page? (plan.keyOf article)).map MemoryPage.text
  match outcomeIn wiki plan article with
  | .created => some ⟨1, article.content, plan.parentPageId⟩
  | .updated => present.map fun text =>
      { text with version := text.version + 1, content := article.content }
  | _ => present

/-- A page that was there before is still there under its identifier. -/
def KeepsId (before after : Option MemoryPage) : Prop :=
  ∀ old, before = some old → ∃ new, after = some new ∧ new.id = old.id

theorem KeepsId.refl (page : Option MemoryPage) : KeepsId page page :=
  fun old h => ⟨old, h, rfl⟩

theorem KeepsId.trans {first second third : Option MemoryPage} (h : KeepsId first second)
    (h' : KeepsId second third) : KeepsId first third := by
  intro old hold
  obtain ⟨middle, hmiddle, hid⟩ := h old hold
  obtain ⟨new, hnew, hid'⟩ := h' middle hmiddle
  exact ⟨new, hnew, hid'.trans hid⟩

/-- A row that was started in the wiki `origin` and has come so far, when the page of its title
is `page`. -/
def OnCourse (origin : MemoryWiki) (plan : Plan) (article : Article) (page : Option MemoryPage) :
    RowProgress → Prop
  | .pending => page = origin.page? (plan.keyOf article)
  | .existenceChecked found =>
    page = origin.page? (plan.keyOf article) ∧
      origin.injected? article.title .existenceCheck = none ∧ found = page.map MemoryPage.found
  | .done outcome =>
    outcome = outcomeIn origin plan article ∧
      page.map MemoryPage.text = textAfter origin plan article ∧
      KeepsId (origin.page? (plan.keyOf article)) page

/-- A row that was started ends in one way or another. -/
theorem outcomeIn_ne_notAttempted (wiki : MemoryWiki) (plan : Plan) (article : Article) :
    outcomeIn wiki plan article ≠ .notAttempted := by
  rw [outcomeIn]
  intro h
  split at h
  · cases h
  · split at h <;> cases h
  · split at h
    · split at h <;> cases h
    · cases h

/-- A row that ends and asks for no other attempt has a page. -/
theorem OnCourse.page_isSome {origin : MemoryWiki} {plan : Plan} {article : Article}
    {page : Option MemoryPage} {outcome : Outcome}
    (h : OnCourse origin plan article page (.done outcome)) (hretry : outcome.needsRetry = false) :
    page.isSome := by
  obtain ⟨rfl, htext, hkept⟩ := h
  cases horigin : origin.page? (plan.keyOf article) with
  | some old =>
    obtain ⟨new, rfl, _⟩ := hkept old horigin
    rfl
  | none =>
    -- Where no page was, every end but a created page asks for another attempt.
    have hcreated : outcomeIn origin plan article = .created := by
      rw [outcomeIn, horigin] at hretry ⊢
      cases hcheck : origin.injected? article.title .existenceCheck with
      | some e => simp [hcheck, Outcome.needsRetry] at hretry
      | none =>
        cases hcreate : origin.injected? article.title .create with
        | some e => simp [hcheck, hcreate, Outcome.needsRetry] at hretry
        | none => rfl
    rw [textAfter, hcreated] at htext
    cases page with
    | none => cases htext
    | some new => rfl

section Steps

variable (article : Article) (plan : Plan) (wiki : MemoryWiki)

/-! ### The calls of a row -/

theorem lookUp_state :
    ((lookUp MemoryWiki.client article plan).run wiki).state =
      (MemoryWiki.findPage article.title plan.space wiki).2 := by
  simp only [lookUp, MemoryWiki.client, Activity.run_bind, Activity.run_silent]
  cases (MemoryWiki.findPage article.title plan.space wiki).1 <;> rfl

theorem createPage_state :
    ((createPage MemoryWiki.client article plan).run wiki).state =
      (MemoryWiki.create article plan.space plan.parentPageId wiki).2 := by
  simp only [createPage, MemoryWiki.client, Activity.run_bind, Activity.run_silent]
  cases (MemoryWiki.create article plan.space plan.parentPageId wiki).1 <;> rfl

theorem updatePage_state (page : PageVersion) :
    ((updatePage MemoryWiki.client article plan page).run wiki).state =
      (MemoryWiki.update page article plan.space wiki).2 := by
  simp only [updatePage, MemoryWiki.client, Activity.run_bind, Activity.run_silent, Activity.log,
    Activity.run_report]
  cases (MemoryWiki.update page article plan.space wiki).1 <;> rfl

theorem lookUp_value :
    ((lookUp MemoryWiki.client article plan).run wiki).value =
      match wiki.injected? article.title .existenceCheck with
      | some e => .error (.failed .existenceCheck e.message)
      | none => .ok ((wiki.page? (plan.keyOf article)).map MemoryPage.found) := by
  simp only [lookUp, MemoryWiki.client, Activity.run_bind, Activity.run_silent,
    MemoryWiki.findPage]
  cases wiki.injected? article.title .existenceCheck <;> rfl

theorem createPage_value :
    ((createPage MemoryWiki.client article plan).run wiki).value =
      match (MemoryWiki.create article plan.space plan.parentPageId wiki).1 with
      | .ok () => .created
      | .error e => .failed .create e.message := by
  simp only [createPage, MemoryWiki.client, Activity.run_bind, Activity.run_silent]
  cases (MemoryWiki.create article plan.space plan.parentPageId wiki).1 <;> rfl

theorem updatePage_value (page : PageVersion) :
    ((updatePage MemoryWiki.client article plan page).run wiki).value =
      match (MemoryWiki.update page article plan.space wiki).1 with
      | .ok () => .updated
      | .error e => .failed .update e.message := by
  simp only [updatePage, MemoryWiki.client, Activity.run_bind, Activity.run_silent, Activity.log,
    Activity.run_report]
  cases (MemoryWiki.update page article plan.space wiki).1 <;> rfl

theorem next_pending_state :
    ((RowProgress.pending.next MemoryWiki.client article plan).run wiki).state =
      (MemoryWiki.findPage article.title plan.space wiki).2 := by
  rw [← lookUp_state article plan wiki]
  simp only [RowProgress.next, Activity.run_bind]
  cases ((lookUp MemoryWiki.client article plan).run wiki).value <;> rfl

/-- A step of a row touches the page of its title only. -/
theorem touches_next (progress : RowProgress) :
    Touches (plan.keyOf article) wiki
      ((progress.next MemoryWiki.client article plan).run wiki).state := by
  cases progress with
  | pending =>
    rw [next_pending_state]
    exact MemoryWiki.touches_findPage wiki plan.space article.title
  | existenceChecked found =>
    simp only [RowProgress.next, Activity.run_bind, Activity.run_pure]
    cases found with
    | none =>
      rw [publish, createPage_state]
      exact MemoryWiki.touches_create wiki article plan.space plan.parentPageId
    | some page =>
      rw [publish]
      split
      · rw [updatePage_state]
        exact MemoryWiki.touches_update wiki article plan.space page
      · exact Touches.refl ..
  | done outcome => exact Touches.refl ..

end Steps

/-! ### Rows on course -/

section Course

variable {origin wiki : MemoryWiki} {plan : Plan} {article : Article}

/-- A row that ends without writing its page. -/
theorem OnCourse.unwritten {page : Option MemoryPage} {outcome : Outcome}
    (hpage : page = origin.page? (plan.keyOf article))
    (hout : outcomeIn origin plan article = outcome) (hnew : outcome ≠ .created)
    (hover : outcome ≠ .updated) : OnCourse origin plan article page (.done outcome) := by
  -- The other outcomes leave the page as it was.
  subst hpage
  refine ⟨hout.symm, ?_, KeepsId.refl _⟩
  rw [textAfter, hout]
  cases outcome with
  | created => exact absurd rfl hnew
  | updated => exact absurd rfl hover
  | _ => rfl

/-- After the look-up a row knows the page of its title, or has failed. -/
theorem OnCourse.look (hfail : wiki.failures = origin.failures)
    (hpage : wiki.page? (plan.keyOf article) = origin.page? (plan.keyOf article)) :
    OnCourse origin plan article (wiki.page? (plan.keyOf article))
      ((RowProgress.pending.next MemoryWiki.client article plan).run wiki).value := by
  have hinj := MemoryWiki.injected?_congr hfail article.title .existenceCheck
  simp only [RowProgress.next, Activity.run_bind, lookUp_value, hinj]
  cases h : origin.injected? article.title .existenceCheck with
  | some e =>
    have hout : outcomeIn origin plan article = .failed .existenceCheck e.message := by
      simp [outcomeIn, h]
    exact OnCourse.unwritten hpage hout (by simp) (by simp)
  | none => exact ⟨hpage, h, rfl⟩

/-- A new page is what the row was to bring about, and so is a failure to create it. -/
theorem OnCourse.create (hfail : wiki.failures = origin.failures)
    (hpage : wiki.page? (plan.keyOf article) = origin.page? (plan.keyOf article))
    (hcheck : origin.injected? article.title .existenceCheck = none)
    (hnone : wiki.page? (plan.keyOf article) = none) :
    OnCourse origin plan article
      (((createPage MemoryWiki.client article plan).run wiki).state.page? (plan.keyOf article))
      (.done ((createPage MemoryWiki.client article plan).run wiki).value) := by
  have hinj := MemoryWiki.injected?_congr hfail article.title .create
  have horigin : origin.page? (plan.keyOf article) = none := hpage ▸ hnone
  rw [createPage_state, createPage_value, MemoryWiki.create_of_none wiki hnone, hinj]
  cases h : origin.injected? article.title .create with
  | some e =>
    have hout : outcomeIn origin plan article = .failed .create e.message := by
      simp [outcomeIn, hcheck, horigin, h]
    exact OnCourse.unwritten hpage hout (by simp) (by simp)
  | none =>
    have hout : outcomeIn origin plan article = .created := by
      simp [outcomeIn, hcheck, horigin, h]
    refine ⟨hout.symm, ?_, ?_⟩
    · rw [textAfter, hout]
      exact congrArg (Option.map MemoryPage.text) (MemoryWiki.page?_put_self ..)
    · intro old hold
      rw [horigin] at hold
      cases hold

/-- An overwritten page is what the row was to bring about, and so is a failure to overwrite it. -/
theorem OnCourse.update (hfail : wiki.failures = origin.failures)
    (hpage : wiki.page? (plan.keyOf article) = origin.page? (plan.keyOf article))
    (hcheck : origin.injected? article.title .existenceCheck = none)
    (hover : plan.overwriteExisting = true) {stored : MemoryPage}
    (hstored : wiki.page? (plan.keyOf article) = some stored) :
    OnCourse origin plan article
      (((updatePage MemoryWiki.client article plan stored.found).run wiki).state.page?
        (plan.keyOf article))
      (.done ((updatePage MemoryWiki.client article plan stored.found).run wiki).value) := by
  have hinj := MemoryWiki.injected?_congr hfail article.title .update
  have horigin : origin.page? (plan.keyOf article) = some stored := hpage ▸ hstored
  rw [updatePage_state, updatePage_value, MemoryWiki.update_of_found wiki hstored, hinj]
  cases h : origin.injected? article.title .update with
  | some e =>
    have hout : outcomeIn origin plan article = .failed .update e.message := by
      simp [outcomeIn, hcheck, horigin, hover, h]
    exact OnCourse.unwritten hpage hout (by simp) (by simp)
  | none =>
    have hout : outcomeIn origin plan article = .updated := by
      simp [outcomeIn, hcheck, horigin, hover, h]
    refine ⟨hout.symm, ?_, ?_⟩
    · rw [textAfter, hout, horigin]
      exact congrArg (Option.map MemoryPage.text) (MemoryWiki.page?_put_self ..)
    · intro old hold
      obtain rfl : stored = old := by simpa [horigin] using hold
      exact ⟨_, MemoryWiki.page?_put_self .., rfl⟩

/-- A step keeps a row on course, if the failures are those that the row was started with. -/
theorem OnCourse.next {progress : RowProgress} (hfail : wiki.failures = origin.failures)
    (h : OnCourse origin plan article (wiki.page? (plan.keyOf article)) progress) :
    OnCourse origin plan article
      (((progress.next MemoryWiki.client article plan).run wiki).state.page? (plan.keyOf article))
      ((progress.next MemoryWiki.client article plan).run wiki).value := by
  cases progress with
  | pending =>
    have hkept : ((RowProgress.pending.next MemoryWiki.client article plan).run wiki).state.page?
        (plan.keyOf article) = wiki.page? (plan.keyOf article) := by
      rw [next_pending_state]
      rfl
    rw [hkept]
    exact OnCourse.look hfail h
  | existenceChecked found =>
    -- Nobody has touched the page since the look-up, so the call does what the look-up decided.
    obtain ⟨hpage, hcheck, rfl⟩ := h
    simp only [RowProgress.next, Activity.run_bind, Activity.run_pure]
    cases hstored : wiki.page? (plan.keyOf article) with
    | none => exact OnCourse.create hfail hpage hcheck hstored
    | some stored =>
      cases hover : plan.overwriteExisting with
      | true =>
        simp only [Option.map_some, publish, hover, if_true]
        exact OnCourse.update hfail hpage hcheck hover hstored
      | false =>
        have hout : outcomeIn origin plan article = .skippedExisting := by
          simp [outcomeIn, hcheck, ← hpage, hstored, hover]
        simp only [Option.map_some, publish, hover, Bool.false_eq_true, if_false]
        exact OnCourse.unwritten (hstored ▸ hpage) hout (by simp) (by simp)
  | done outcome => exact h

/-! ### All calls of a row -/

/-- All calls of a row are two steps. -/
theorem uploadArticle_eq_next_next (article : Article) (plan : Plan) (wiki : MemoryWiki) :
    let first := (RowProgress.pending.next MemoryWiki.client article plan).run wiki
    let second := (first.value.next MemoryWiki.client article plan).run first.state
    second.value = .done ((uploadArticle MemoryWiki.client article plan).run wiki).value ∧
      second.state = ((uploadArticle MemoryWiki.client article plan).run wiki).state := by
  have h := run_uploadArticle MemoryWiki.client article plan wiki
  simp only [Activity.run_bind, Activity.run_pure, Result.mk.injEq] at h
  exact ⟨h.1, h.2.1⟩

/-- All calls of a row touch the page of its title only. -/
theorem touches_uploadArticle (article : Article) (plan : Plan) (wiki : MemoryWiki) :
    Touches (plan.keyOf article) wiki
      ((uploadArticle MemoryWiki.client article plan).run wiki).state := by
  rw [← (uploadArticle_eq_next_next article plan wiki).2]
  exact (touches_next article plan wiki _).trans (touches_next article plan _ _)

/-- All calls of a row lead to the outcome that was decided at its start. -/
theorem onCourse_uploadArticle (hfail : wiki.failures = origin.failures)
    (hpage : wiki.page? (plan.keyOf article) = origin.page? (plan.keyOf article)) :
    OnCourse origin plan article
      (((uploadArticle MemoryWiki.client article plan).run wiki).state.page? (plan.keyOf article))
      (.done ((uploadArticle MemoryWiki.client article plan).run wiki).value) := by
  rw [← (uploadArticle_eq_next_next article plan wiki).1,
    ← (uploadArticle_eq_next_next article plan wiki).2]
  have hstart : OnCourse origin plan article (wiki.page? (plan.keyOf article)) .pending := hpage
  have hfirst := touches_next article plan wiki .pending
  exact (hstart.next hfail).next (hfirst.failures.trans hfail)

end Course

end PageMerge.Upload
