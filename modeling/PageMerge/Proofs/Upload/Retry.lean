import PageMerge.Proofs.Upload.Interleaving

/-!
# Uploading again what needs another attempt

A row that fails leaves its page as it was, and so does a row that is not attempted. So the articles
that need another attempt can be uploaded again once no call is made to fail any more. Then each
page is what it would be if no call had failed in the first place: no article is left out, and none
is written twice.

## Main definitions

* `Repaired`: a wiki with the pages of another one, in which no call is made to fail

## Main results

* `outcomeIn_of_finished`, `textAfter_of_needsRetry`: rows in a wiki where calls fail
* `textAfter_congr`: rows in a wiki where no call fails
* `run_uploadBatch_again`: an upload, and another one of what it has left
-/

namespace PageMerge.Upload

open PageMerge.Wiki (Article MemoryPage MemoryWiki PageKey)

/-- A wiki has the pages of another one, and no call is made to fail in it. -/
structure Repaired (wiki repaired : MemoryWiki) : Prop where
  pages : ∀ key, repaired.page? key = wiki.page? key
  failures : repaired.failures = []

/-! ### Rows where no call fails -/

section Rows

variable {wiki repaired : MemoryWiki} {plan : Plan} {article : Article}

/-- Where no call is made to fail, the page of the title decides how a row ends. -/
theorem outcomeIn_of_failures_nil (h : repaired.failures = []) :
    outcomeIn repaired plan article =
      match repaired.page? (plan.keyOf article) with
      | none => .created
      | some _ => if plan.overwriteExisting then .updated else .skippedExisting := by
  simp only [outcomeIn, MemoryWiki.injected?, h, List.not_mem_nil, if_false]
  cases repaired.page? (plan.keyOf article) <;> rfl

theorem needsRetry_outcomeIn (h : repaired.failures = []) :
    (outcomeIn repaired plan article).needsRetry = false := by
  rw [outcomeIn_of_failures_nil h]
  split
  · rfl
  · split <;> rfl

/-- A row that needs no other attempt ends as it would if no call was made to fail. -/
theorem outcomeIn_of_finished (h : Repaired wiki repaired)
    (hfinished : (outcomeIn wiki plan article).needsRetry = false) :
    outcomeIn repaired plan article = outcomeIn wiki plan article := by
  rw [outcomeIn_of_failures_nil h.failures, h.pages]
  unfold outcomeIn at hfinished ⊢
  cases hcheck : wiki.injected? article.title .existenceCheck with
  | some e => simp [hcheck, Outcome.needsRetry] at hfinished
  | none =>
    -- The look-up did not fail, so what it found decides which call came after it.
    cases hpage : wiki.page? (plan.keyOf article) with
    | none =>
      cases hcreate : wiki.injected? article.title .create with
      | some e => simp [hcheck, hpage, hcreate, Outcome.needsRetry] at hfinished
      | none => rfl
    | some page =>
      by_cases hover : plan.overwriteExisting = true
      · cases hupdate : wiki.injected? article.title .update with
        | some e => simp [hcheck, hpage, hover, hupdate, Outcome.needsRetry] at hfinished
        | none => simp [hover]
      · simp [hover]

/-- A row that needs another attempt leaves the text of its page. -/
theorem textAfter_of_needsRetry (hretry : (outcomeIn wiki plan article).needsRetry = true) :
    textAfter wiki plan article = (wiki.page? (plan.keyOf article)).map MemoryPage.text := by
  rw [textAfter]
  cases hout : outcomeIn wiki plan article with
  | created =>
    rw [hout] at hretry
    cases hretry
  | updated =>
    rw [hout] at hretry
    cases hretry
  | _ => rfl

/-- Where no call is made to fail, the text of the page decides about the text after the row. -/
theorem textAfter_congr {other : MemoryWiki} (h : repaired.failures = [])
    (h' : other.failures = [])
    (htext : (repaired.page? (plan.keyOf article)).map MemoryPage.text =
      (other.page? (plan.keyOf article)).map MemoryPage.text) :
    textAfter repaired plan article = textAfter other plan article := by
  have hout : outcomeIn repaired plan article = outcomeIn other plan article := by
    rw [outcomeIn_of_failures_nil h, outcomeIn_of_failures_nil h']
    -- Whether there is a page decides, and pages with the same text are there or not together.
    have hsome := congrArg Option.isSome htext
    rw [Option.isSome_map, Option.isSome_map] at hsome
    cases hpage : repaired.page? (plan.keyOf article) <;>
      cases hother : other.page? (plan.keyOf article) <;> simp_all
  rw [textAfter, textAfter, hout, htext]

end Rows

theorem template_uploadFrom (plan : Plan) (cancel : CancelAfter) (total : Nat)
    (articles : List Article) (done : Nat) (wiki : MemoryWiki) :
    ((uploadFrom MemoryWiki.client plan cancel total done articles).run wiki).state.template =
      wiki.template := by
  refine rel_uploadFrom (R := fun before after => after.template = before.template)
    (fun _ => rfl) ?_ ?_ cancel total articles done wiki
  · intro first second third h h'
    exact h'.trans h
  · exact fun article wiki => (touches_uploadArticle article plan wiki).template

/-! ### Two uploads against one -/

section Again

variable {wiki : MemoryWiki} {plan : Plan} {articles : List Article}

theorem keyOf_injOn (htitles : (articles.map Article.title).Nodup) {article other : Article}
    (harticle : article ∈ articles) (hother : other ∈ articles)
    (hkey : plan.keyOf article = plan.keyOf other) : article = other :=
  List.inj_on_of_nodup_map htitles harticle hother (congrArg PageKey.title hkey)

/-- What an upload leaves: the page of an article that needs another attempt is as it was, that of
every other article is what was to be brought about, and nothing else was touched. -/
structure Leaves (wiki : MemoryWiki) (plan : Plan) (articles : List Article)
    (outcomes : List RowOutcome) (after : MemoryWiki) : Prop where
  kept : ∀ article ∈ unfinished articles outcomes,
    (after.page? (plan.keyOf article)).map MemoryPage.text =
        (wiki.page? (plan.keyOf article)).map MemoryPage.text ∧
      KeepsId (wiki.page? (plan.keyOf article)) (after.page? (plan.keyOf article))
  finished : ∀ article ∈ articles, article ∉ unfinished articles outcomes →
    (outcomeIn wiki plan article).needsRetry = false ∧
      OnCourse wiki plan article (after.page? (plan.keyOf article))
        (.done (outcomeIn wiki plan article))
  others : ∀ key, (∀ article ∈ articles, key ≠ plan.keyOf article) →
    after.page? key = wiki.page? key

/-- What an upload leaves, whenever it was cancelled. -/
theorem leaves_uploadBatch (wiki : MemoryWiki) (plan : Plan) (cancel : CancelAfter)
    (htitles : (articles.map Article.title).Nodup) :
    Leaves wiki plan articles ((uploadBatch MemoryWiki.client plan cancel articles).run wiki).value
      ((uploadBatch MemoryWiki.client plan cancel articles).run wiki).state := by
  obtain ⟨attempted, left, rfl, hrows, huploaded⟩ :=
    run_uploadBatch_of_cancel wiki plan cancel htitles
  rw [hrows]
  generalize ((uploadBatch MemoryWiki.client plan cancel (attempted ++ left)).run wiki).state =
    after at huploaded ⊢
  have hmem : ∀ article, article ∈ unfinished (attempted ++ left)
        (attempted.map (fun article => outcomeOf article (outcomeIn wiki plan article)) ++
          left.map fun article => outcomeOf article .notAttempted) ↔
      (article ∈ attempted ∧ (outcomeIn wiki plan article).needsRetry = true) ∨
        article ∈ left := by
    intro article
    rw [unfinished_append (List.length_map _).symm, List.mem_append, mem_unfinished_map_iff,
      mem_unfinished_map_iff]
    simp [outcomeOf, Outcome.needsRetry]
  constructor
  · intro article harticle
    rcases (hmem article).mp harticle with ⟨hattempted, hretry⟩ | hleft
    -- The call that failed did not write the page.
    · obtain ⟨-, htext, hid⟩ := huploaded.course article hattempted
      exact ⟨htext.trans (textAfter_of_needsRetry hretry), hid⟩
    -- Nobody wrote the page, since the articles that were attempted have other titles.
    · have hpage : after.page? (plan.keyOf article) = wiki.page? (plan.keyOf article) := by
        apply huploaded.others
        intro other hother hkey
        rw [List.map_append] at htitles
        refine (List.nodup_append.mp htitles).2.2 _ (List.mem_map_of_mem hother) _
          (List.mem_map_of_mem hleft) (congrArg PageKey.title hkey).symm
      rw [hpage]
      exact ⟨rfl, KeepsId.refl _⟩
  · intro article harticle hfinished
    rw [hmem, not_or] at hfinished
    have hattempted : article ∈ attempted :=
      (List.mem_append.mp harticle).resolve_right hfinished.2
    refine ⟨?_, huploaded.course article hattempted⟩
    exact Bool.eq_false_iff.mpr fun hretry => hfinished.1 ⟨hattempted, hretry⟩
  · intro key hkey
    exact huploaded.others key fun article harticle =>
      hkey article (List.mem_append_left _ harticle)

variable {again once : MemoryWiki}

/-- Uploading what an upload has left, when no call is made to fail any more, ends every row, and
leaves the pages of one upload of all articles in which no call is made to fail. -/
theorem run_uploadBatch_again (wiki : MemoryWiki) (plan : Plan) (cancel : CancelAfter)
    (htitles : (articles.map Article.title).Nodup) :
    let first := (uploadBatch MemoryWiki.client plan cancel articles).run wiki
    let second := (uploadBatch MemoryWiki.client plan none
      (unfinished articles first.value)).run again
    let single := (uploadBatch MemoryWiki.client plan none articles).run once
    Repaired first.state again → Repaired wiki once →
      (∀ row ∈ second.value, row.outcome.needsRetry = false) ∧
        SamePages wiki second.state single.state := by
  intro first second single hagain honce
  have hleaves := leaves_uploadBatch wiki plan cancel htitles
  have hunfinished := unfinished_sublist articles first.value
  obtain ⟨hsecond, huploaded⟩ :=
    run_uploadBatch again plan ((hunfinished.map Article.title).nodup htitles)
  obtain ⟨-, hsingle⟩ := run_uploadBatch once plan htitles
  constructor
  · intro row hrow
    have hrows : second.value = _ := hsecond
    rw [hrows] at hrow
    obtain ⟨article, -, rfl⟩ := List.mem_map.mp hrow
    exact needsRetry_outcomeIn hagain.failures
  -- The pages are compared key by key: one that belongs to an article, or to none of them.
  intro key
  by_cases hkey : ∃ article ∈ articles, key = plan.keyOf article
  · obtain ⟨article, harticle, rfl⟩ := hkey
    obtain ⟨-, hsingleText, hsingleId⟩ := hsingle.course article harticle
    rw [honce.pages] at hsingleId
    by_cases hretry : article ∈ unfinished articles first.value
    -- The second upload finds the page as the first one found it.
    · obtain ⟨htext, hid⟩ := hleaves.kept article hretry
      obtain ⟨-, hsecondText, hsecondId⟩ := huploaded.course article hretry
      rw [hagain.pages] at hsecondId
      refine ⟨?_, hid.trans hsecondId, hsingleId⟩
      refine hsecondText.trans (Eq.trans ?_ hsingleText.symm)
      apply textAfter_congr hagain.failures honce.failures
      rw [hagain.pages, honce.pages]
      exact htext
    -- The second upload leaves the page as the first one has brought it about.
    · obtain ⟨hfinished, -, htext, hid⟩ := hleaves.finished article harticle hretry
      have hpage : second.state.page? (plan.keyOf article) =
          first.state.page? (plan.keyOf article) := by
        rw [← hagain.pages]
        apply huploaded.others
        intro other hother hkey
        apply hretry
        rw [keyOf_injOn htitles harticle (hunfinished.subset hother) hkey]
        exact hother
      rw [hpage]
      refine ⟨?_, hid, hsingleId⟩
      refine htext.trans (Eq.trans ?_ hsingleText.symm)
      rw [textAfter, textAfter, outcomeIn_of_finished honce hfinished, honce.pages]
  · have hothers : ∀ article ∈ articles, key ≠ plan.keyOf article := fun article harticle heq =>
      hkey ⟨article, harticle, heq⟩
    have hsecondPage : second.state.page? key = wiki.page? key := by
      rw [← hleaves.others key hothers, ← hagain.pages]
      exact huploaded.others key fun article harticle =>
        hothers article (hunfinished.subset harticle)
    have hsinglePage : single.state.page? key = wiki.page? key := by
      rw [← honce.pages]
      exact hsingle.others key hothers
    rw [hsecondPage, hsinglePage]
    exact ⟨rfl, KeepsId.refl _, KeepsId.refl _⟩

end Again

end PageMerge.Upload
