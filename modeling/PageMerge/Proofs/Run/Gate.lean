import PageMerge.Proofs.Batch
import PageMerge.Proofs.Run.Stages
import PageMerge.Proofs.Upload.Order

/-!
# All or nothing

A run that does not take place leaves the wiki as it was, but for the call that asked for the
template. A run that takes place has passed every check, and has an outcome for each row of its
data. Both hold for an upload of one article after the other and for every schedule of a pool.

## Main definitions

* `AllOrNothing`: what a run may do to the wiki, and what it has passed if it takes place

## Main results

* `runWith_allOrNothing`: a run whose upload has an outcome for each article, in their order
* `run_all_or_nothing`: whole runs
-/

namespace PageMerge

open PageMerge.Config (Settings)
open PageMerge.Data (DataSet Row)
open PageMerge.Upload (CancelAfter Move RowOutcome rowsOf uploadPooled)
open PageMerge.Wiki (Article MemoryWiki RecordedCall WikiAccess)
open Workspace

/-! ### Runs that are not refused -/

/-- The data and the template of a run fit together: every row can be rendered, and no identifier
and no rendered title occurs twice. -/
structure Accepted (template : Template) (data : DataSet) : Prop where
  rendered : ∀ row ∈ data.rows, template.render row = .ok (template.articleOf row)
  ids_nodup : (data.rows.map Row.id).Nodup
  titles_nodup : (data.rows.map fun row => (template.articleOf row).title).Nodup

/-- The articles of a run that has passed every check. -/
theorem Passed.articles_eq {σ : Type} {settings : Settings} {client : WikiAccess σ}
    {space : Workspace σ} {template : Template} {ready : ReadyRun}
    (h : Passed settings client space template ready) :
    ready.articles = ready.data.rows.map template.articleOf :=
  ((Batch.articles_eq_ok_iff ..).mp h.articles).1

/-- What a run has passed is that its data and its template fit together. -/
theorem Passed.accepted {σ : Type} {settings : Settings} {client : WikiAccess σ}
    {space : Workspace σ} {template : Template} {ready : ReadyRun}
    (h : Passed settings client space template ready) : Accepted template ready.data := by
  obtain ⟨harticles, hrendered, htitles⟩ := (Batch.articles_eq_ok_iff ..).mp h.articles
  obtain ⟨content, _, hloads⟩ := (Data.loadFile_eq_ok_iff ..).mp h.loaded
  rw [harticles, List.map_map] at htitles
  exact ⟨hrendered, hloads.ids_nodup, htitles⟩

/-! ### After the preparation -/

section Parts

variable {σ : Type} (paths : RunFiles) (space : Workspace σ)

/-- The report of a run that did not take place is no business of the wiki. -/
theorem wiki_recordRejected (error : RunFault) :
    ((recordRejected paths error).run space).state.wiki = space.wiki := by
  simp only [recordRejected, onFiles, Activity.run_bind, Activity.onPart, Activity.run_silent]
  split <;> rfl

/-- A ledger keeps the outcomes. -/
theorem outcomes_saveLedgerOf (data : DataSet) (outcomes : List RowOutcome) :
    ((saveLedgerOf paths data outcomes).run space).value.outcomes = outcomes := by
  rw [saveLedgerOf]
  split
  · rfl
  · simp only [Activity.run_bind]
    split <;> rfl

/-- A report keeps the outcomes. -/
theorem outcomes_recordCompleted (report : RunResult) :
    ((recordCompleted paths report).run space).value.outcomes = report.outcomes := by
  simp only [recordCompleted, Activity.run_bind]
  split <;> rfl

/-- What is done after the upload keeps the outcomes. -/
theorem outcomes_conclude (data : DataSet) (outcomes : List RowOutcome) :
    ((conclude paths data outcomes).run space).value.outcomes = outcomes := by
  simp only [conclude, Activity.run_bind]
  rw [outcomes_recordCompleted, outcomes_saveLedgerOf]

theorem wiki_saveLedgerOf (data : DataSet) (outcomes : List RowOutcome) :
    ((saveLedgerOf paths data outcomes).run space).state.wiki = space.wiki := by
  rw [saveLedgerOf]
  split
  · rfl
  · simp only [Activity.run_bind]
    split <;> rfl

theorem wiki_recordCompleted (report : RunResult) :
    ((recordCompleted paths report).run space).state.wiki = space.wiki := by
  simp only [recordCompleted, Activity.run_bind]
  split <;> rfl

/-- What is done after the upload is no business of the wiki. -/
theorem wiki_conclude (data : DataSet) (outcomes : List RowOutcome) :
    ((conclude paths data outcomes).run space).state.wiki = space.wiki := by
  simp only [conclude, Activity.run_bind]
  rw [wiki_recordCompleted]
  exact wiki_saveLedgerOf paths space data outcomes

end Parts

/-- A run either ends with the error of its preparation, or uploads what was prepared. -/
theorem runWith_cases {σ : Type} (settings : Settings) (client : WikiAccess σ) (paths : RunFiles)
    (upload : List Article → Activity σ (List RowOutcome)) (space : Workspace σ) :
    (∃ e after, PreparationEnd settings client space (.error e) after ∧
      ((runWith settings client paths upload).run space).value = .error e ∧
      ((runWith settings client paths upload).run space).state.wiki = after.wiki) ∨
    (∃ ready after, PreparationEnd settings client space (.ok ready) after ∧
      let uploaded := (onWiki (upload ready.articles)).run after
      let concluded := (conclude paths ready.data uploaded.value).run uploaded.state
      ((runWith settings client paths upload).run space).value = .ok concluded.value ∧
      ((runWith settings client paths upload).run space).state = concluded.state) := by
  have hprepared := prepare_ensures settings client paths space
  rw [RunActivity.Ensures] at hprepared
  simp only [runWith, Activity.run_bind]
  generalize (prepare settings client paths).run.run space = prepared at hprepared ⊢
  obtain ⟨value, after, events⟩ := prepared
  cases value with
  | error e =>
    refine .inl ⟨e, after, hprepared, ?_⟩
    simp only [Activity.run_bind, Activity.run_pure]
    exact ⟨trivial, wiki_recordRejected paths after e⟩
  | ok ready =>
    refine .inr ⟨ready, after, hprepared, ?_⟩
    simp only [Activity.run_bind, Activity.run_pure]
    exact ⟨trivial, trivial⟩

/-! ### Whole runs -/

/-- The calls of a run that does not take place: none if its data cannot be used, and else the one
that asks for the template. -/
def callsBefore (settings : Settings) : RunFault → List RecordedCall
  | .data _ => []
  | _ => [.fetchTemplate settings.templateId]

/-- A run that does not take place adds nothing to the wiki but the calls of its preparation. A run
that takes place loaded its data and obtained its template, both fit together, and there is an
outcome for each row of the data, in their order and with the rendered titles. -/
def AllOrNothing (settings : Settings) (space : Workspace MemoryWiki)
    (result : Result (Workspace MemoryWiki) (Except RunFault RunResult)) : Prop :=
  match result.value with
  | .error e => result.state.wiki =
      { space.wiki with calls := space.wiki.calls ++ callsBefore settings e }
  | .ok report => ∃ data page scanned,
      (Data.loadFile space.files settings.dataCsv settings.delimiter
        settings.idColumnHeader).1 = .ok data ∧
      (space.wiki.fetchTemplate settings.templateId).1 = .ok page ∧
      (space.store.obtain settings.marks page).1 = .ok scanned ∧
      Accepted scanned.template data ∧
      rowsOf report.outcomes =
        data.rows.map fun row => (row.id, (scanned.template.articleOf row).title)

/-- A run that does not take place leaves the pages of the wiki as they were. -/
theorem AllOrNothing.pages {settings : Settings} {space : Workspace MemoryWiki}
    {result : Result (Workspace MemoryWiki) (Except RunFault RunResult)} {error : RunFault}
    (h : AllOrNothing settings space result) (hvalue : result.value = .error error) :
    result.state.wiki.pages = space.wiki.pages := by
  rw [AllOrNothing, hvalue] at h
  dsimp only at h
  rw [h]

/-- A run whose upload has an outcome for each article, in their order. -/
theorem runWith_allOrNothing (settings : Settings) (paths : RunFiles)
    (space : Workspace MemoryWiki) {upload : List Article → Activity MemoryWiki (List RowOutcome)}
    (hupload : ∀ articles wiki, rowsOf ((upload articles).run wiki).value =
      articles.map fun article => (article.rowId, article.title)) :
    AllOrNothing settings space
      ((runWith settings MemoryWiki.client paths upload).run space) := by
  rw [AllOrNothing]
  rcases runWith_cases settings MemoryWiki.client paths upload space with
    ⟨e, after, hend, hvalue, hwiki⟩ | ⟨ready, after, hend, hvalue, _⟩
  · rw [hvalue]
    refine hwiki.trans ?_
    cases e with
    | data cause =>
      obtain rfl : after = space := hend
      simp [callsBefore]
    | _ => exact hend
  · rw [hvalue]
    obtain ⟨_, template, hpassed⟩ := hend
    -- What was passed before the upload says what the articles are, and with them the outcomes.
    obtain ⟨page, scanned, hpage, hscanned, rfl⟩ := hpassed.parsed
    refine ⟨ready.data, page, scanned, hpassed.loaded, hpage, hscanned, hpassed.accepted, ?_⟩
    rw [outcomes_conclude]
    refine (hupload ready.articles after.wiki).trans ?_
    rw [hpassed.articles_eq, List.map_map]
    rfl

/-- Every whole run is all or nothing, whenever it is cancelled, and if the articles are uploaded by
a pool, whatever its schedule. -/
theorem run_all_or_nothing (settings : Settings) (paths : RunFiles)
    (space : Workspace MemoryWiki) :
    (∀ cancel : CancelAfter, AllOrNothing settings space
      ((wholeRun settings MemoryWiki.client paths cancel).run space)) ∧
    ∀ moves : List Move, AllOrNothing settings space
      ((runWith settings MemoryWiki.client paths
        (uploadPooled MemoryWiki.client (uploadPlan settings) moves)).run space) := by
  constructor
  · intro cancel
    exact runWith_allOrNothing settings paths space fun articles wiki =>
      Upload.rows_uploadBatch MemoryWiki.client (uploadPlan settings) cancel articles wiki
  · intro moves
    exact runWith_allOrNothing settings paths space fun articles wiki =>
      Upload.rows_uploadPooled MemoryWiki.client (uploadPlan settings) moves articles wiki

end PageMerge
