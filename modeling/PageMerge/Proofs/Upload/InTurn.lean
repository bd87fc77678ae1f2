import PageMerge.Proofs.Upload.Interleaving

/-!
# An upload in turn

One article after the other is uploaded until the run is cancelled. Each of them finds the page of
its title as it was before the upload, since the articles before it have other titles. So what is
called, reported and written for it is decided in the wiki at the start.

## Main definitions

* `callsFor`: the calls of a row that ends in a certain way
* `PageChange`: what becomes of the page of an article
* `InTurn`: an upload of the first articles, one after the other

## Main results

* `calls_uploadArticle`, `calls_uploadFrom`: the calls of a row and of an upload
* `progress_uploadFrom`: the progress that an upload reports
* `OnCourse.pageChange`: the page of a row that has ended
* `inTurn_uploadBatch`: every upload of one article after the other
-/

namespace PageMerge.Upload

open PageMerge.Wiki (Article CallError MemoryPage MemoryWiki PageVersion RecordedCall)

/-! ### Calls -/

/-- The call that writes the page of a title, if the outcome of the row shows one. -/
def writeCall? (title : String) : Outcome → Option RecordedCall
  | .created => some (.create title)
  | .failed .create _ => some (.create title)
  | .updated => some (.update title)
  | .failed .update _ => some (.update title)
  | _ => none

/-- The calls for a row that was attempted: its title is looked up, and then its page is written at
most once. -/
def callsFor (row : RowOutcome) : List RecordedCall :=
  .findPage row.title :: (writeCall? row.title row.outcome).toList

section Row

variable (article : Article) (plan : Plan) (wiki : MemoryWiki)

theorem calls_createPage :
    ((createPage MemoryWiki.client article plan).run wiki).state.calls = wiki.calls ++
      (writeCall? article.title
        ((createPage MemoryWiki.client article plan).run wiki).value).toList := by
  rw [createPage_state, createPage_value]
  rcases wiki.create_cases article plan.space plan.parentPageId with ⟨e, h⟩ | ⟨_, h⟩
  · rw [h]
    rfl
  · rw [h]
    rfl

theorem calls_updatePage (page : PageVersion) :
    ((updatePage MemoryWiki.client article plan page).run wiki).state.calls = wiki.calls ++
      (writeCall? article.title
        ((updatePage MemoryWiki.client article plan page).run wiki).value).toList := by
  rw [updatePage_state, updatePage_value]
  rcases wiki.update_cases page article plan.space with ⟨e, h⟩ | ⟨_, _, _, h⟩
  · rw [h]
    rfl
  · rw [h]
    rfl

/-- The calls of a row are those that its outcome shows. -/
theorem calls_uploadArticle :
    ((uploadArticle MemoryWiki.client article plan).run wiki).state.calls = wiki.calls ++
      callsFor (outcomeOf article
        ((uploadArticle MemoryWiki.client article plan).run wiki).value) := by
  have hfound : ((lookUp MemoryWiki.client article plan).run wiki).state.calls =
      wiki.calls ++ [.findPage article.title] := by
    rw [lookUp_state]
    rfl
  rw [callsFor, outcomeOf, List.append_cons, ← hfound]
  -- What was found decides whether there is another call, and so does the outcome.
  simp only [uploadArticle, Activity.run_bind, lookUp_value]
  cases wiki.injected? article.title .existenceCheck with
  | some e => simp [writeCall?]
  | none =>
    cases wiki.page? (plan.keyOf article) with
    | none => exact calls_createPage article plan _
    | some page =>
      dsimp only [Option.map_some, publish]
      split
      · exact calls_updatePage article plan _ _
      · simp [writeCall?, Activity.log]

end Row

/-- The calls of an upload that nothing cancels are those for its rows, one after the other. -/
theorem calls_uploadFrom (plan : Plan) (total : Nat) (articles : List Article) :
    ∀ (done : Nat) (wiki : MemoryWiki),
      let ran := (uploadFrom MemoryWiki.client plan none total done articles).run wiki
      ran.state.calls = wiki.calls ++ ran.value.flatMap callsFor := by
  induction articles with
  | nil => exact fun _ wiki => (List.append_nil wiki.calls).symm
  | cons article rest ih =>
    intro done wiki
    rw [uploadFrom_none_cons]
    dsimp only [attempt, Activity.run_bind, Activity.run_pure, Activity.run_report]
    rw [ih, calls_uploadArticle, List.flatMap_cons, List.append_assoc]

/-! ### Progress -/

/-- An activity does not report progress. -/
def Quiet {σ α : Type} (act : Activity σ α) : Prop := ∀ s, (act.run s).progress = []

section Quiet

variable {σ α β : Type}

theorem progress_bind (act : Activity σ α) (next : α → Activity σ β) (s : σ) :
    ((act >>= next).run s).progress =
      (act.run s).progress ++ ((next (act.run s).value).run (act.run s).state).progress := by
  rw [Activity.run_bind, Result.progress, List.filterMap_append]
  rfl

theorem quiet_pure (a : α) : Quiet (pure a : Activity σ α) := fun _ => rfl

theorem quiet_silent (step : σ → α × σ) : Quiet (Activity.silent step) := fun _ => rfl

theorem quiet_log (entry : Log.Entry) : Quiet (Activity.log entry : Activity σ Unit) := fun _ => rfl

theorem Quiet.bind {act : Activity σ α} {next : α → Activity σ β} (h : Quiet act)
    (h' : ∀ a, Quiet (next a)) : Quiet (act >>= next) := by
  intro s
  rw [progress_bind, h, h', List.append_nil]

theorem quiet_fail (stage : FailedCall) (notice : Log.Entry) (error : CallError) :
    Quiet (fail stage notice error : Activity σ Outcome) :=
  (quiet_log notice).bind fun _ => quiet_pure _

end Quiet

section Row

variable (article : Article) (plan : Plan)

theorem quiet_lookUp : Quiet (lookUp MemoryWiki.client article plan) := by
  refine (quiet_silent _).bind fun answer => ?_
  cases answer with
  | ok found => exact quiet_pure _
  | error e => exact (quiet_fail _ _ _).bind fun _ => quiet_pure _

theorem quiet_publish (found : Option PageVersion) :
    Quiet (publish MemoryWiki.client article plan found) := by
  cases found with
  | none =>
    refine (quiet_silent _).bind fun answer => ?_
    cases answer with
    | ok _ => exact (quiet_log _).bind fun _ => quiet_pure _
    | error e => exact quiet_fail _ _ _
  | some page =>
    rw [publish]
    split
    · refine (quiet_log _).bind fun _ => (quiet_silent _).bind fun answer => ?_
      cases answer with
      | ok _ => exact quiet_pure _
      | error e => exact quiet_fail _ _ _
    · exact (quiet_log _).bind fun _ => quiet_pure _

/-- The calls of a row report no progress. -/
theorem quiet_uploadArticle : Quiet (uploadArticle MemoryWiki.client article plan) := by
  refine (quiet_lookUp article plan).bind fun answer => ?_
  cases answer with
  | ok found => exact quiet_publish article plan found
  | error outcome => exact quiet_pure _

end Row

/-- Every row reports its number when it has ended. -/
theorem progress_uploadFrom (plan : Plan) (total : Nat) (articles : List Article) :
    ∀ (done : Nat) (wiki : MemoryWiki),
      ((uploadFrom MemoryWiki.client plan none total done articles).run wiki).progress =
        (List.range' (done + 1) articles.length).map (·, total) := by
  induction articles with
  | nil => exact fun _ _ => rfl
  | cons article rest ih =>
    intro done wiki
    have hrow : ((attempt MemoryWiki.client plan done total article).run wiki).progress =
        [(done + 1, total)] := by
      rw [attempt, progress_bind, quiet_uploadArticle]
      rfl
    rw [uploadFrom_none_cons, progress_bind, hrow, progress_bind, ih, quiet_pure, List.append_nil,
      List.length_cons, List.range'_succ, List.map_cons, List.singleton_append]

/-! ### Pages -/

/-- What becomes of the page of an article whose row ends with an outcome. -/
inductive PageChange (plan : Plan) (article : Article) :
    Outcome → Option MemoryPage → Option MemoryPage → Prop
  | created (id : String) : PageChange plan article .created none
      (some ⟨id, 1, article.content, plan.parentPageId⟩)
  | updated (old : MemoryPage) : PageChange plan article .updated (some old)
      (some { old with version := old.version + 1, content := article.content })
  | unchanged {outcome : Outcome} (page : Option MemoryPage) (hcreated : outcome ≠ .created)
      (hupdated : outcome ≠ .updated) : PageChange plan article outcome page page

/-- Only a row that creates or updates its page changes it. -/
theorem PageChange.eq_of_unwritten {plan : Plan} {article : Article} {outcome : Outcome}
    {before after : Option MemoryPage} (h : PageChange plan article outcome before after)
    (hcreated : outcome ≠ .created) (hupdated : outcome ≠ .updated) : after = before := by
  cases h with
  | created => exact absurd rfl hcreated
  | updated => exact absurd rfl hupdated
  | unchanged => rfl

section Pages

variable {origin : MemoryWiki} {plan : Plan} {article : Article} {page : Option MemoryPage}

theorem page?_of_created (h : outcomeIn origin plan article = .created) :
    origin.page? (plan.keyOf article) = none := by
  rw [outcomeIn] at h
  split at h
  · cases h
  · assumption
  · split at h
    · split at h <;> cases h
    · cases h

theorem page?_of_updated (h : outcomeIn origin plan article = .updated) :
    ∃ old, origin.page? (plan.keyOf article) = some old := by
  rw [outcomeIn] at h
  split at h
  · cases h
  · split at h <;> cases h
  · exact ⟨_, by assumption⟩

/-- A page with the same text under the same identifier is the same page. -/
theorem KeepsId.eq_of_text {before after : Option MemoryPage} (h : KeepsId before after)
    (htext : after.map MemoryPage.text = before.map MemoryPage.text) : after = before := by
  cases before with
  | none => simpa using htext
  | some old =>
    obtain ⟨⟨id, version, content, parent⟩, rfl, hid⟩ := h old rfl
    cases htext
    cases hid
    rfl

/-- The page of a row that has ended. -/
theorem OnCourse.pageChange {outcome : Outcome}
    (h : OnCourse origin plan article page (.done outcome)) :
    PageChange plan article outcome (origin.page? (plan.keyOf article)) page := by
  obtain ⟨rfl, htext, hkept⟩ := h
  rw [textAfter] at htext
  cases hout : outcomeIn origin plan article with
  | created =>
    -- Nothing is known of the identifier, since no page was there.
    rw [hout] at htext
    obtain ⟨⟨id, version, content, parent⟩, rfl, hnew⟩ := Option.map_eq_some_iff.mp htext
    cases hnew
    rw [page?_of_created hout]
    exact .created id
  | updated =>
    obtain ⟨old, hold⟩ := page?_of_updated hout
    obtain ⟨⟨id, version, content, parent⟩, rfl, hid⟩ := hkept old hold
    rw [hout, hold] at htext
    cases htext
    cases hid
    rw [hold]
    exact .updated old
  -- Every other outcome leaves text and identifier.
  | _ =>
    rw [hout] at htext
    rw [hkept.eq_of_text htext]
    exact .unchanged _ (by simp) (by simp)

end Pages

/-! ### Whole uploads -/

/-- An upload that attempted some articles, one after the other, and left the rest. All that it
brought about was decided in the wiki at the start. -/
structure InTurn (wiki : MemoryWiki) (plan : Plan) (attempted left : List Article)
    (ended : Result MemoryWiki (List RowOutcome)) : Prop where
  outcomes : ended.value =
    attempted.map (fun article => outcomeOf article (outcomeIn wiki plan article)) ++
      left.map fun article => outcomeOf article .notAttempted
  progress : ended.progress =
    (List.range' 1 attempted.length).map (·, attempted.length + left.length)
  calls : ended.state.calls = wiki.calls ++
    attempted.flatMap fun article => callsFor (outcomeOf article (outcomeIn wiki plan article))
  pages : ∀ article ∈ attempted, PageChange plan article (outcomeIn wiki plan article)
    (wiki.page? (plan.keyOf article)) (ended.state.page? (plan.keyOf article))
  /-- A page that is not what it was is the page of an article that was created or updated. -/
  others : ∀ key, ended.state.page? key ≠ wiki.page? key → ∃ article ∈ attempted,
    key = plan.keyOf article ∧
      (outcomeIn wiki plan article = .created ∨ outcomeIn wiki plan article = .updated)

/-- The first articles are uploaded, and the others are not attempted. -/
theorem inTurn_of_uploadFrom (wiki : MemoryWiki) (plan : Plan) {attempted left : List Article}
    (htitles : (attempted.map Article.title).Nodup) :
    let total := attempted.length + left.length
    let ran := (uploadFrom MemoryWiki.client plan none total 0 attempted).run wiki
    InTurn wiki plan attempted left { ran with
      value := ran.value ++ left.map fun article => outcomeOf article .notAttempted } := by
  intro total ran
  obtain ⟨hrows, huploaded⟩ := @run_uploadFrom wiki plan total attempted 0 wiki htitles rfl
    fun _ _ => rfl
  have hcalls := calls_uploadFrom plan total attempted 0 wiki
  dsimp only at hcalls
  rw [hrows, List.flatMap_map] at hcalls
  have hpages := fun article harticle => (huploaded.course article harticle).pageChange
  refine ⟨congrArg (· ++ _) hrows, progress_uploadFrom plan total attempted 0 wiki, hcalls, hpages,
    ?_⟩
  intro key hchanged
  by_contra! hnone
  refine hchanged ?_
  by_cases hkey : ∃ article ∈ attempted, key = plan.keyOf article
  -- The row of the article has written nothing.
  · obtain ⟨article, harticle, rfl⟩ := hkey
    obtain ⟨hcreated, hupdated⟩ := hnone article harticle rfl
    exact (hpages article harticle).eq_of_unwritten hcreated hupdated
  · push Not at hkey
    exact huploaded.others key hkey

/-- **Uploads in turn.** Whenever an upload of articles with distinct titles is cancelled, a number
of first articles is attempted, all of them if it is not cancelled before they are done. They end as
was decided in the wiki at the start, each of them reports its number, and the calls and the changes
of pages are theirs. The other articles are not attempted. -/
theorem inTurn_uploadBatch (wiki : MemoryWiki) (plan : Plan) (cancel : CancelAfter)
    {articles : List Article} (htitles : (articles.map Article.title).Nodup) :
    ∃ m ≤ articles.length, m = attemptable cancel 0 articles.length ∧
      InTurn wiki plan (articles.take m) (articles.drop m)
        ((uploadBatch MemoryWiki.client plan cancel articles).run wiki) := by
  refine ⟨_, attemptable_le cancel 0 articles.length, rfl, ?_⟩
  have hcancel := run_uploadFrom_of_cancel MemoryWiki.client plan cancel articles.length articles 0
    wiki
  dsimp only at hcancel
  rw [uploadBatch, hcancel]
  generalize attemptable cancel 0 articles.length = m
  have htaken : ((articles.take m).map Article.title).Nodup :=
    htitles.sublist ((List.take_sublist m articles).map _)
  have hturn := @inTurn_of_uploadFrom wiki plan _ (articles.drop m) htaken
  rwa [← List.length_append, List.take_append_drop] at hturn

/-- An upload that is cancelled when two of three rows are done: a page is updated, another one is
not created, and the third article is not attempted. -/
theorem inTurn_uploadBatch_cancelled :
    let wiki := ((MemoryWiki.empty none).addPage ⟨"S", "a"⟩ "old").injectFailure "b" .create
    let plan : Plan := ⟨"S", none, true, 1⟩
    let articles : List Article := [⟨"1", "a", "A", "page", "storage"⟩,
      ⟨"2", "b", "B", "page", "storage"⟩, ⟨"3", "c", "C", "page", "storage"⟩]
    let ended := (uploadBatch MemoryWiki.client plan (some 2) articles).run wiki
    (articles.map Article.title).Nodup ∧
      ended.value.map RowOutcome.outcome =
        [.updated, .failed .create "Injected Create failure for 'b'", .notAttempted] ∧
      ended.progress = [(1, 3), (2, 3)] ∧
      ended.state.calls = [.findPage "a", .update "a", .findPage "b", .create "b"] ∧
      ∃ m ≤ articles.length, m = 2 ∧
        InTurn wiki plan (articles.take m) (articles.drop m) ended := by
  intro wiki plan articles ended
  have htitles : (articles.map Article.title).Nodup := by decide
  exact ⟨htitles, by decide, by decide, by decide, inTurn_uploadBatch wiki plan (some 2) htitles⟩

end PageMerge.Upload
