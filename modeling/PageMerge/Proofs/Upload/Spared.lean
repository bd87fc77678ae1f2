import PageMerge.Proofs.Upload.Order

/-!
# Uploads that overwrite nothing

An upload that must not overwrite pages leaves every page that was there as it was, even if several
rows have the same title. A row may find no page, and another one create it before the first row
makes its next call; but that call creates a page as well, and does not do so where one is.

## Main definitions

* `Spared before after`: the pages of one wiki are still there in another one, and no call since
  then overwrites a page

## Main results

* `spared_next`: a step of a row that must not overwrite pages
* `existing_pages_spared`: every schedule of a pool, and the upload of one article after the other
-/

namespace PageMerge.Upload

open PageMerge.Wiki (Article MemoryPage MemoryWiki PageKey RecordedCall)

/-- Every page of the first wiki is still there, with the same identifier, version, content and
parent, and no call that was recorded since then overwrites a page. -/
structure Spared (before after : MemoryWiki) : Prop where
  pages : ∀ key page, before.page? key = some page → after.page? key = some page
  calls : ∃ made, after.calls = before.calls ++ made ∧ ∀ call ∈ made, ∀ title, call ≠ .update title

theorem Spared.refl (wiki : MemoryWiki) : Spared wiki wiki :=
  ⟨fun _ _ h => h, [], by simp, by simp⟩

theorem Spared.trans {first second third : MemoryWiki} (h : Spared first second)
    (h' : Spared second third) : Spared first third where
  pages key page hpage := h'.pages key page (h.pages key page hpage)
  calls := MemoryWiki.calls_trans h.calls h'.calls

/-! ### Calls -/

section Calls

variable (wiki : MemoryWiki)

/-- A call that is only recorded, and overwrites nothing. -/
theorem spared_record {call : RecordedCall} (hcall : ∀ title, call ≠ .update title) :
    Spared wiki (wiki.record call) := by
  refine ⟨fun _ _ h => h, [call], rfl, ?_⟩
  intro other hother
  rw [List.mem_singleton.mp hother]
  exact hcall

theorem spared_findPage (title space : String) : Spared wiki (wiki.findPage title space).2 :=
  spared_record wiki (by simp)

/-- A page is only created where none is. -/
theorem spared_create (article : Article) (space : String) (parent : Option String) :
    Spared wiki (wiki.create article space parent).2 := by
  have hcall : Spared wiki (wiki.record (.create article.title)) := spared_record wiki (by simp)
  rcases wiki.create_cases article space parent with ⟨e, h⟩ | ⟨hfree, h⟩
  · rw [h]
    exact hcall
  · rw [h]
    refine hcall.trans ⟨?_, [], by simp [MemoryWiki.putNew], by simp⟩
    intro key page hkey
    rw [MemoryWiki.putNew, MemoryWiki.page?_put, if_neg]
    · exact hkey
    · rintro rfl
      rw [MemoryWiki.page?_record, hfree] at hkey
      cases hkey

/-- A step of a row that must not overwrite pages, however far the row has come. -/
theorem spared_next (article : Article) {plan : Plan} (hplan : plan.overwriteExisting = false)
    (progress : RowProgress) :
    Spared wiki ((progress.next MemoryWiki.client article plan).run wiki).state := by
  cases progress with
  | pending =>
    rw [next_pending_state]
    exact spared_findPage wiki article.title plan.space
  | existenceChecked found =>
    simp only [RowProgress.next, Activity.run_bind, Activity.run_pure]
    cases found with
    | none =>
      rw [publish, createPage_state]
      exact spared_create wiki article plan.space plan.parentPageId
    | some page =>
      rw [publish, hplan, if_neg Bool.false_ne_true]
      exact Spared.refl wiki
  | done outcome => exact Spared.refl wiki

theorem spared_uploadArticle (article : Article) {plan : Plan}
    (hplan : plan.overwriteExisting = false) :
    Spared wiki ((uploadArticle MemoryWiki.client article plan).run wiki).state := by
  rw [← (uploadArticle_eq_next_next article plan wiki).2]
  exact (spared_next wiki article hplan _).trans (spared_next _ article hplan _)

end Calls

/-! ### Whole uploads -/

section Uploads

variable {plan : Plan}

theorem spared_uploadFrom (hplan : plan.overwriteExisting = false) (cancel : CancelAfter)
    (total : Nat) (articles : List Article) (done : Nat) (wiki : MemoryWiki) :
    Spared wiki ((uploadFrom MemoryWiki.client plan cancel total done articles).run wiki).state :=
  rel_uploadFrom Spared.refl Spared.trans
    (fun article wiki => spared_uploadArticle wiki article hplan) cancel total articles done wiki

/-- Whatever comes next in a pool that must not overwrite pages. -/
theorem Pool.spared_take (hplan : plan.overwriteExisting = false) (move : Move)
    (pool : Pool MemoryWiki) :
    Spared pool.wiki ((Pool.take MemoryWiki.client plan move).run pool).state.wiki := by
  rcases Pool.take_cases MemoryWiki.client plan move pool with
    ⟨_, hstate⟩ | ⟨_, _, _, hstate⟩ | ⟨_, article, progress, _, _, hstate⟩ | hstate
  · rw [hstate]
    exact Spared.refl pool.wiki
  · rw [hstate]
    exact Spared.refl pool.wiki
  · rw [hstate]
    exact spared_next pool.wiki article hplan progress
  · rw [hstate]
    exact Spared.refl pool.wiki

theorem Pool.spared_takeAll (hplan : plan.overwriteExisting = false) (moves : List Move) :
    ∀ pool : Pool MemoryWiki,
      Spared pool.wiki ((Pool.takeAll MemoryWiki.client plan moves).run pool).state.wiki := by
  induction moves with
  | nil => exact fun pool => Spared.refl pool.wiki
  | cons move moves ih => exact fun pool => (Pool.spared_take hplan move pool).trans (ih _)

end Uploads

/-- An upload that must not overwrite pages spares the pages that were there before it, whatever the
titles of its articles, the calls that are made to fail, the schedule and the cancellation: at every
moment of a pool, and after an upload of one article after the other. -/
theorem existing_pages_spared (wiki : MemoryWiki) {plan : Plan}
    (hplan : plan.overwriteExisting = false) (articles : List Article) :
    (∀ moves : List Move, Spared wiki
      ((Pool.takeAll MemoryWiki.client plan moves).run (Pool.opened wiki articles)).state.wiki) ∧
    ∀ cancel : CancelAfter, Spared wiki
      ((uploadBatch MemoryWiki.client plan cancel articles).run wiki).state :=
  ⟨fun moves => Pool.spared_takeAll hplan moves (Pool.opened wiki articles),
    fun cancel => spared_uploadFrom hplan cancel articles.length articles 0 wiki⟩

/-- Two rows with the title `a` both find no page. The first of them to go on creates it, the other
one fails to, and the page `b` that was there is what it was. -/
theorem existing_pages_spared_same_title :
    let wiki := (MemoryWiki.empty none).addPage ⟨"S", "b"⟩ "old"
    let plan : Plan := ⟨"S", none, false, 3⟩
    let articles : List Article := [⟨"1", "a", "A", "page", "storage"⟩,
      ⟨"2", "a", "B", "page", "storage"⟩, ⟨"3", "b", "C", "page", "storage"⟩]
    let moves : List Move := [.start 0, .start 1, .start 2, .advance 0, .advance 1, .advance 2,
      .advance 1, .advance 0, .advance 2]
    let pool := ((Pool.takeAll MemoryWiki.client plan moves).run
      (Pool.opened wiki articles)).state
    plan.overwriteExisting = false ∧
      pool.outcomes.map RowOutcome.outcome = [.failed .create
        "A page with this title already exists: 'a'", .created, .skippedExisting] ∧
      (pool.wiki.page? ⟨"S", "a"⟩).map MemoryPage.content = some "B" ∧ Spared wiki pool.wiki := by
  intro wiki plan articles moves pool
  have hplan : plan.overwriteExisting = false := rfl
  exact ⟨hplan, by decide, by decide, (existing_pages_spared wiki hplan articles).1 moves⟩

end PageMerge.Upload
