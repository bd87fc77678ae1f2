import PageMerge.Proofs.Upload.Order

/-!
# Uploading at the same time, and one after the other

A pool of workers brings about what the upload of one article after the other does: the same
outcomes in the order of the articles, and the same pages up to the identifiers of new ones. A row
of a cancelled pool that was attempted at all ends as it would have without the cancellation.

## Main definitions

* `SamePages`: two wikis whose pages differ in the identifiers of new pages at most
* `Way.Uncancelled`: an upload that nothing cancels

## Main results

* `run_uploadFrom`: the outcomes and the pages of an upload of one article after the other
* `run_uploadBatch_of_cancel`: the same for an upload that is cancelled
* `Way.run_uncancelled`: the outcomes and the pages of any upload that nothing cancels
* `pool_refines_uploadBatch`: every schedule of a pool against the upload of one after the other
-/

namespace PageMerge.Upload

open PageMerge.Wiki (Article MemoryPage MemoryWiki PageKey)
open PageMerge.Wiki.MemoryWiki (Touches)

/-! ### One after the other -/

section Sequential

variable {origin : MemoryWiki} {plan : Plan}

/-- The articles in `attempted` were uploaded, and no page was touched but theirs. -/
structure Uploaded (origin : MemoryWiki) (plan : Plan) (attempted : List Article)
    (before after : MemoryWiki) : Prop where
  course : ∀ article ∈ attempted,
    OnCourse origin plan article (after.page? (plan.keyOf article))
      (.done (outcomeIn origin plan article))
  others : ∀ key, (∀ article ∈ attempted, key ≠ plan.keyOf article) →
    after.page? key = before.page? key

/-- An article before articles with other titles. -/
theorem Uploaded.cons {article : Article} {attempted : List Article}
    {before middle after : MemoryWiki} (htouch : Touches (plan.keyOf article) before middle)
    (hcourse : OnCourse origin plan article (middle.page? (plan.keyOf article))
      (.done (outcomeIn origin plan article)))
    (hrest : Uploaded origin plan attempted middle after)
    (hne : ∀ other ∈ attempted, plan.keyOf article ≠ plan.keyOf other) :
    Uploaded origin plan (article :: attempted) before after := by
  constructor
  · intro other hother
    rcases List.mem_cons.mp hother with rfl | hother
    · rw [hrest.others _ hne]
      exact hcourse
    · exact hrest.course other hother
  · intro key hkey
    rw [hrest.others key fun other hother => hkey other (List.mem_cons_of_mem _ hother)]
    exact htouch.page? key (hkey article (List.mem_cons_self ..))

/-- Without a cancellation all articles are uploaded, as was decided in the wiki `origin`. -/
theorem run_uploadFrom (total : Nat) (articles : List Article) :
    ∀ (done : Nat) (wiki : MemoryWiki), (articles.map Article.title).Nodup →
      wiki.failures = origin.failures →
      (∀ article ∈ articles,
        wiki.page? (plan.keyOf article) = origin.page? (plan.keyOf article)) →
      let ran := (uploadFrom MemoryWiki.client plan none total done articles).run wiki
      ran.value = articles.map (fun article => outcomeOf article (outcomeIn origin plan article)) ∧
        Uploaded origin plan articles wiki ran.state := by
  induction articles with
  | nil =>
    intro done wiki _ _ _
    exact ⟨rfl, by simp, fun _ _ => rfl⟩
  | cons article rest ih =>
    intro done wiki htitles hfail hpages
    rw [List.map_cons, List.nodup_cons] at htitles
    have hne : ∀ other ∈ rest, plan.keyOf article ≠ plan.keyOf other := fun other hother heq =>
      htitles.1 (List.mem_map.mpr ⟨other, hother, (congrArg PageKey.title heq).symm⟩)
    -- The pages of the other articles are still those of the start when their turn comes.
    have htouch := touches_uploadArticle article plan wiki
    have hcourse := onCourse_uploadArticle hfail (hpages article (List.mem_cons_self ..))
    have hvalue := hcourse.1
    rw [hvalue] at hcourse
    obtain ⟨hrows, hrest⟩ := ih (done + 1) _ htitles.2 (htouch.failures.trans hfail)
      fun other hother => by
        rw [htouch.page? _ (hne other hother).symm]
        exact hpages other (List.mem_cons_of_mem _ hother)
    refine ⟨?_, hrest.cons htouch hcourse hne⟩
    rw [uploadFrom_none_cons]
    simp only [attempt, Activity.run_bind, Activity.run_pure, Activity.run_report, hrows, hvalue,
      List.map_cons]

theorem run_uploadBatch (wiki : MemoryWiki) (plan : Plan) {articles : List Article}
    (htitles : (articles.map Article.title).Nodup) :
    ((uploadBatch MemoryWiki.client plan none articles).run wiki).value =
        articles.map (fun article => outcomeOf article (outcomeIn wiki plan article)) ∧
      Uploaded wiki plan articles wiki
        ((uploadBatch MemoryWiki.client plan none articles).run wiki).state :=
  run_uploadFrom articles.length articles 0 wiki htitles rfl fun _ _ => rfl

/-- Whenever an upload is cancelled, some first articles are uploaded, and the others are not
attempted. -/
theorem run_uploadBatch_of_cancel (wiki : MemoryWiki) (plan : Plan) (cancel : CancelAfter)
    {articles : List Article} (htitles : (articles.map Article.title).Nodup) :
    ∃ attempted left, articles = attempted ++ left ∧
      ((uploadBatch MemoryWiki.client plan cancel articles).run wiki).value =
        attempted.map (fun article => outcomeOf article (outcomeIn wiki plan article)) ++
          left.map (fun article => outcomeOf article .notAttempted) ∧
      Uploaded wiki plan attempted wiki
        ((uploadBatch MemoryWiki.client plan cancel articles).run wiki).state := by
  have hcancel := run_uploadFrom_of_cancel MemoryWiki.client plan cancel articles.length articles 0
    wiki
  generalize attemptable cancel 0 articles.length = m at hcancel
  obtain ⟨hrows, huploaded⟩ := @run_uploadFrom wiki plan articles.length (articles.take m) 0 wiki
    (htitles.sublist ((List.take_sublist m articles).map _)) rfl fun _ _ => rfl
  refine ⟨articles.take m, articles.drop m, (List.take_append_drop m articles).symm, ?_⟩
  rw [uploadBatch, hcancel]
  exact ⟨congrArg (· ++ _) hrows, huploaded⟩

end Sequential

/-! ### Pools that have ended -/

/-- Two wikis that came from `origin` have the same pages: the same texts at the same places, and
the pages of `origin` under the identifiers they had. -/
def SamePages (origin first second : MemoryWiki) : Prop :=
  ∀ key, (first.page? key).map MemoryPage.text = (second.page? key).map MemoryPage.text ∧
    KeepsId (origin.page? key) (first.page? key) ∧ KeepsId (origin.page? key) (second.page? key)

section Finished

variable {origin : MemoryWiki} {plan : Plan} {articles : List Article} {pool : Pool MemoryWiki}

/-- A row that has ended was skipped, or ended as was decided in the wiki `origin`. -/
theorem Slot.OnCourse.ended {article : Article} {page : Option MemoryPage} {slot : Slot}
    (hcourse : slot.OnCourse origin plan article page) (hended : slot.outcome?.isSome) :
    slot = .skipped ∨ slot = .started (.done (outcomeIn origin plan article)) := by
  cases slot with
  | waiting => simp [Slot.outcome?] at hended
  | skipped => exact .inl rfl
  | started progress =>
    cases progress with
    | done outcome => exact .inr (by rw [hcourse.1])
    | _ => simp [Slot.outcome?] at hended

/-- A row of a pool that has ended was not attempted, and then there was no call for it, or it ended
as was decided in the wiki `origin`. -/
theorem Pool.Inv.outcome (h : pool.Inv origin plan articles) (hfinished : pool.Finished) {row : Nat}
    {article : Article} (harticle : articles[row]? = some article) :
    (∃ slot, pool.rows[row]? = some (article, slot) ∧ slot = .skipped ∧
      pool.outcomes[row]? = some (outcomeOf article .notAttempted)) ∨
    pool.outcomes[row]? = some (outcomeOf article (outcomeIn origin plan article)) := by
  rw [← h.articles_eq, List.getElem?_map, Option.map_eq_some_iff] at harticle
  obtain ⟨⟨_, slot⟩, hrow, rfl⟩ := harticle
  rw [Pool.outcomes_of_finished hfinished, List.getElem?_map, hrow]
  rcases (h.course row _ slot hrow).ended (hfinished _ (List.mem_of_getElem? hrow)) with
    rfl | rfl
  · exact .inl ⟨.skipped, rfl, rfl, rfl⟩
  · exact .inr rfl

/-- All rows of a pool that was not cancelled end as was decided in the wiki `origin`. -/
theorem Pool.Inv.outcomes (h : pool.Inv origin plan articles) (hfinished : pool.Finished)
    (hcancelled : pool.cancelled = false) : pool.outcomes =
      articles.map fun article => outcomeOf article (outcomeIn origin plan article) := by
  rw [Pool.outcomes_of_finished hfinished, ← h.articles_eq, List.map_map]
  apply List.map_congr_left
  intro entry hentry
  obtain ⟨row, hrow⟩ := List.mem_iff_getElem?.mp hentry
  rcases (h.course row _ entry.2 hrow).ended (hfinished entry hentry) with hslot | hslot
  · exact absurd hslot (h.attempted hcancelled row _ _ hrow)
  · simp [Pool.outcomeOfEntry, hslot, Slot.outcome?]

/-- Each article of a pool that has ended and was not cancelled has the page that was decided for it
in the wiki `origin`. -/
theorem Pool.Inv.done (h : pool.Inv origin plan articles) (hfinished : pool.Finished)
    (hcancelled : pool.cancelled = false) {article : Article} (harticle : article ∈ articles) :
    OnCourse origin plan article (pool.wiki.page? (plan.keyOf article))
      (.done (outcomeIn origin plan article)) := by
  rw [← h.articles_eq, List.mem_map] at harticle
  obtain ⟨⟨_, slot⟩, hentry, rfl⟩ := harticle
  obtain ⟨row, hrow⟩ := List.mem_iff_getElem?.mp hentry
  have hcourse := h.course row _ slot hrow
  rcases hcourse.ended (hfinished _ hentry) with rfl | rfl
  · exact absurd rfl (h.attempted hcancelled row _ _ hrow)
  · exact hcourse

/-- A pool that has ended and was not cancelled leaves the pages that the upload of one article
after the other leaves. -/
theorem Pool.Inv.samePages (h : pool.Inv origin plan articles) (hfinished : pool.Finished)
    (hcancelled : pool.cancelled = false) {sequential : MemoryWiki}
    (huploaded : Uploaded origin plan articles origin sequential) :
    SamePages origin pool.wiki sequential := by
  intro key
  by_cases hkey : ∃ article ∈ articles, key = plan.keyOf article
  -- Both runs brought the page of an article to the text that was decided for it.
  · obtain ⟨article, harticle, rfl⟩ := hkey
    have hsequential := huploaded.course article harticle
    have hpooled := h.done hfinished hcancelled harticle
    exact ⟨hpooled.2.1.trans hsequential.2.1.symm, hpooled.2.2, hsequential.2.2⟩
  · have hothers : ∀ article ∈ articles, key ≠ plan.keyOf article := fun article harticle heq =>
      hkey ⟨article, harticle, heq⟩
    rw [h.others key hothers, huploaded.others key hothers]
    exact ⟨rfl, KeepsId.refl _, KeepsId.refl _⟩

end Finished

/-- A schedule without a cancellation does not cancel. -/
theorem Pool.cancelled_takeAll {σ : Type} (client : Wiki.WikiAccess σ) (plan : Plan)
    (moves : List Move) : ∀ pool : Pool σ, .cancel ∉ moves →
      ((Pool.takeAll client plan moves).run pool).state.cancelled = pool.cancelled := by
  induction moves with
  | nil => exact fun _ _ => rfl
  | cons move moves ih =>
    intro pool hmoves
    rw [List.mem_cons, not_or] at hmoves
    refine (ih _ hmoves.2).trans ?_
    rcases Pool.take_cases client plan move pool with
      ⟨rfl, _⟩ | ⟨_, _, _, hstate⟩ | ⟨_, _, _, _, _, hstate⟩ | hstate
    · exact absurd rfl hmoves.1
    · rw [hstate]
    · rw [hstate]
    · rw [hstate]

/-! ### Uploads that nothing cancels -/

/-- Nothing cancels the upload. -/
def Way.Uncancelled : Way → Prop
  | .inTurn cancel => cancel = none
  | .byPool moves => .cancel ∉ moves

/-- Without a cancellation every article ends as was decided before the upload, and its page is what
was decided for it then. -/
theorem Way.run_uncancelled {way : Way} (hway : way.Uncancelled) (wiki : MemoryWiki) (plan : Plan)
    {articles : List Article} (htitles : (articles.map Article.title).Nodup) :
    let ended := (way.upload MemoryWiki.client plan articles).run wiki
    ended.value = articles.map (fun article => outcomeOf article (outcomeIn wiki plan article)) ∧
      ∀ article ∈ articles, OnCourse wiki plan article (ended.state.page? (plan.keyOf article))
        (.done (outcomeIn wiki plan article)) := by
  cases way with
  | inTurn cancel =>
    obtain rfl : cancel = none := hway
    obtain ⟨hrows, huploaded⟩ := run_uploadBatch wiki plan htitles
    exact ⟨hrows, huploaded.course⟩
  | byPool moves =>
    have hfinishing : Move.cancel ∉ moves ++ finishing articles.length := by
      rw [List.mem_append, not_or]
      exact ⟨hway, by simp [finishing]⟩
    have hinv := Pool.Inv.takeAll htitles (moves ++ finishing articles.length)
      (Pool.Inv.opened wiki plan articles)
    have hfinished := Pool.finished_takeAll_finishing MemoryWiki.client plan wiki articles moves
    have hcancelled := Pool.cancelled_takeAll MemoryWiki.client plan _ (Pool.opened wiki articles)
      hfinishing
    exact ⟨hinv.outcomes hfinished hcancelled, fun article => hinv.done hfinished hcancelled⟩

/-! ### All schedules -/

/-- Whatever the schedule of a pool whose rows have ended, the rows have outcomes in the order of
the articles. If nothing cancelled the run, these are the outcomes of the upload of one article
after the other, and the pages are the same. Else each row has its outcome there, or it was not
attempted and there was no call for its title. -/
theorem pool_refines_uploadBatch (wiki : MemoryWiki) (plan : Plan) (articles : List Article)
    (htitles : (articles.map Article.title).Nodup) (moves : List Move) :
    let pool := ((Pool.takeAll MemoryWiki.client plan moves).run
      (Pool.opened wiki articles)).state
    let sequential := (uploadBatch MemoryWiki.client plan none articles).run wiki
    pool.Finished →
      rowsOf pool.outcomes = articles.map (fun article => (article.rowId, article.title)) ∧
      (.cancel ∉ moves →
        pool.outcomes = sequential.value ∧ SamePages wiki pool.wiki sequential.state) ∧
      ∃ made, pool.wiki.calls = wiki.calls ++ made ∧
        ∀ (row : Nat) (article : Article), articles[row]? = some article →
          pool.outcomes[row]? = sequential.value[row]? ∨
          (pool.outcomes[row]? = some (outcomeOf article .notAttempted) ∧
            ∀ call ∈ made, call.title? ≠ some article.title) := by
  intro pool sequential hfinished
  have hinv : pool.Inv wiki plan articles :=
    Pool.Inv.takeAll htitles moves (Pool.Inv.opened wiki plan articles)
  obtain ⟨hrows, huploaded⟩ := run_uploadBatch wiki plan htitles
  refine ⟨?_, ?_, ?_⟩
  · rw [Pool.rowsOf_outcomes hfinished, hinv.articles_eq]
  · intro hmoves
    have hcancelled : pool.cancelled = false := Pool.cancelled_takeAll _ plan moves _ hmoves
    exact ⟨(hinv.outcomes hfinished hcancelled).trans hrows.symm,
      hinv.samePages hfinished hcancelled huploaded⟩
  · obtain ⟨made, hmade, hfree⟩ := hinv.calls
    refine ⟨made, hmade, ?_⟩
    intro row article harticle
    rcases hinv.outcome hfinished harticle with ⟨slot, hrow, hskipped, houtcome⟩ | houtcome
    · exact .inr ⟨houtcome, hfree row article slot hrow (.inr hskipped)⟩
    · refine .inl (houtcome.trans ?_)
      rw [hrows, List.getElem?_map, harticle]
      rfl

/-- Two rows whose calls alternate: the first of them finds its page and overwrites it, after the
second one has created a page. -/
theorem pool_refines_uploadBatch_alternating :
    let wiki := (MemoryWiki.empty none).addPage ⟨"S", "a"⟩ "old"
    let plan : Plan := ⟨"S", none, true, 2⟩
    let articles : List Article := [⟨"1", "a", "A", "page", "storage"⟩,
      ⟨"2", "b", "B", "page", "storage"⟩]
    let moves : List Move := [.start 1, .start 0, .advance 0, .advance 1, .advance 1, .advance 0]
    let pool := ((Pool.takeAll MemoryWiki.client plan moves).run
      (Pool.opened wiki articles)).state
    let sequential := (uploadBatch MemoryWiki.client plan none articles).run wiki
    (pool.wiki.calls =
        [.findPage "a", .findPage "b", .create "b", .update "a"]) ∧
      pool.outcomes = sequential.value ∧ SamePages wiki pool.wiki sequential.state := by
  intro wiki plan articles moves pool sequential
  have hfinished : pool.Finished := by
    decide
  have hcancel : Move.cancel ∉ moves := by decide
  obtain ⟨_, hsame, _⟩ := pool_refines_uploadBatch wiki plan articles (by decide) moves hfinished
  exact ⟨by decide, hsame hcancel⟩

end PageMerge.Upload
