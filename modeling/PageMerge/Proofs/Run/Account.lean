import PageMerge.Proofs.Run.Conclusion
import PageMerge.Proofs.Run.Dumps

/-!
# The account that a run gives

A run that takes place counts its outcomes and names its ledger as they are, and neither the ledger
nor the report has an influence on what is uploaded: a run of the same data with the same wiki ends
alike, whichever of its files can be written. When no row needs another run, the place of the ledger
is spared, but dumps and report are written without regard to it: a dump may stand there, or a
directory for one of them.

## Main definitions

* `dumpPaths`: where a run dumps to
* `EndsLike`: a run has given outcomes and leaves a given wiki
* `Accounts`: the account that a run gives

## Main results

* `Cleared.endsLike`: runs with the same data and the same wiki end alike
* `run_accounts`: whole runs
-/

namespace PageMerge

open PageMerge.Config (Settings)
open PageMerge.Data (DataSet Row)
open PageMerge.Files (FileTree Path)
open PageMerge.Json (Value)
open PageMerge.Upload (CancelAfter Move RowOutcome rowsOf uploadBatch uploadPooled)
open PageMerge.Wiki (Article MemoryWiki TemplatePage WikiAccess)

variable {σ : Type}

/-! ### What a run accounts for -/

/-- The paths that a run dumps to. -/
def dumpPaths (settings : Settings) (paths : RunFiles) (data : DataSet) : List Path :=
  (if settings.dumpTemplate then [paths.dumpDirectory.join templateDumpName] else []) ++
    if settings.dumpGeneratedArticles then
      data.rows.map fun row => paths.dumpDirectory.join (dumpName row.id row.line)
    else []

/-- A run has the given outcomes and leaves the given wiki. -/
def EndsLike (settings : Settings) (client : WikiAccess σ) (paths : RunFiles)
    (upload : List Article → Activity σ (List RowOutcome)) (space : Workspace σ)
    (outcomes : List RowOutcome) (wiki : σ) : Prop :=
  ∃ report, ((runWith settings client paths upload).run space).value = .ok report ∧
    report.outcomes = outcomes ∧
    ((runWith settings client paths upload).run space).state.wiki = wiki

/-- The account that a run gives of its outcomes, what it leaves of the ledger's place when no row
needs another run, and what ledger and report have no influence on: with the same wiki and the same
kept templates, a run that is prepared with the same data ends alike, whatever of its files can be
written, and a run that differs only in where ledger and report are written always does. -/
structure Accounts (settings : Settings) (client : WikiAccess σ) (paths : RunFiles)
    (upload : List Article → Activity σ (List RowOutcome)) (space : Workspace σ)
    (report : RunResult) (data : DataSet) : Prop where
  loaded : (Data.loadFile space.files settings.dataCsv settings.delimiter
    settings.idColumnHeader).1 = .ok data
  aligned : report.outcomes.map RowOutcome.rowId = data.rows.map Row.id
  concluded : Concluded paths data ((prepare settings client paths).run.run space).state.files
    ((runWith settings client paths upload).run space).state.files report
  spared : (∀ row ∈ report.outcomes, row.outcome.needsRetry = false) →
    let before := space.files.node? paths.ledger.place
    let after :=
      ((runWith settings client paths upload).run space).state.files.node? paths.ledger.place
    after = before ∨ paths.ledger.place ∈ (dumpPaths settings paths data).map Path.place ∨
      (before = none ∧ after = some .directory ∧
        paths.ledger.place ∈ (dumpPaths settings paths data ++ [paths.report]).flatMap
          Path.directories)
  alike : ∀ (paths' : RunFiles) (space' : Workspace σ),
    space'.wiki = space.wiki → space'.store = space.store →
    (∃ ready, ((prepare settings client paths').run.run space').value = .ok ready ∧
      ready.data = data) →
    EndsLike settings client paths' upload space' report.outcomes
      ((runWith settings client paths upload).run space).state.wiki
  elsewhere : ∀ paths' : RunFiles, paths'.dumpDirectory = paths.dumpDirectory →
    EndsLike settings client paths' upload space report.outcomes
      ((runWith settings client paths upload).run space).state.wiki

/-! ### What a run writes -/

/-- Dumps change their own places and make their directories, even if one of them is not written. -/
theorem writes_writeDumps (dumps : List (Path × Value)) : ∀ tree : FileTree,
    FileTree.Writes ((dumps.map Prod.fst).map Path.place)
      ((dumps.map Prod.fst).flatMap Path.directories) tree (writeDumps tree dumps).2 := by
  induction dumps with
  | nil => exact fun tree => FileTree.Writes.refl _ _ tree
  | cons dump rest ih =>
    intro tree
    obtain ⟨path, value⟩ := dump
    rw [List.map_cons, List.map_cons, List.flatMap_cons]
    have hfirst := (FileTree.writes_writeFileWithin tree path (Text.Utf8.encode value.pretty)).mono
      (List.cons_subset_cons path.place (List.nil_subset ((rest.map Prod.fst).map Path.place)))
      (List.subset_append_left path.directories ((rest.map Prod.fst).flatMap Path.directories))
    rw [writeDumps]
    generalize tree.writeFileWithin path (Text.Utf8.encode value.pretty) = written at hfirst ⊢
    obtain ⟨result, files⟩ := written
    cases result with
    | ok _ =>
      exact hfirst.trans
        ((ih files).mono (List.subset_cons_self _ _) (List.subset_append_right _ _))
    | error cause => exact hfirst

section Runs

variable {settings : Settings} {client : WikiAccess σ} {paths : RunFiles} {space : Workspace σ}
  {template : Template} {page : TemplatePage} {ready : ReadyRun}

/-- The articles of a run are decided by its data, the wiki and the kept templates. -/
theorem Passed.articles_unique (h : Passed settings client space template ready)
    {space' : Workspace σ} {template' : Template} {ready' : ReadyRun}
    (h' : Passed settings client space' template' ready') (hwiki : space'.wiki = space.wiki)
    (hstore : space'.store = space.store) (hdata : ready'.data = ready.data) :
    ready'.articles = ready.articles := by
  obtain ⟨page, scanned, hpage, hscanned, rfl⟩ := h.parsed
  obtain ⟨page', scanned', hpage', hscanned', rfl⟩ := h'.parsed
  rw [hwiki, hpage] at hpage'
  obtain rfl := Except.ok.inj hpage'
  rw [hstore, hscanned] at hscanned'
  obtain rfl := Except.ok.inj hscanned'
  have harticles := h'.articles
  rw [hdata, h.articles] at harticles
  exact (Except.ok.inj harticles).symm

/-- Outcomes of the articles are outcomes of the rows, in their order. -/
theorem Passed.aligned (h : Passed settings client space template ready)
    {outcomes : List RowOutcome}
    (hrows : rowsOf outcomes = ready.articles.map fun article => (article.rowId, article.title)) :
    outcomes.map RowOutcome.rowId = ready.data.rows.map Row.id := by
  have hids := congrArg (List.map Prod.fst) hrows
  rw [rowsOf, List.map_map, List.map_map] at hids
  refine Eq.trans hids ?_
  rw [h.articles_eq, List.map_map]
  rfl

/-- The dumps of articles stand at the paths that the data say. -/
theorem map_fst_articleDumps {data : DataSet} {articles : List Article}
    (h : Batch.articles template data = .ok articles) (settings : Settings) (paths : RunFiles) :
    (articleDumps settings paths ⟨data, articles⟩).map Prod.fst =
      if settings.dumpGeneratedArticles then
        data.rows.map fun row => paths.dumpDirectory.join (dumpName row.id row.line)
      else [] := by
  rw [articleDumps, Batch.zip_articles h]
  split
  · rw [List.map_map, List.map_map]
    rfl
  · rfl

/-- The dump of the template stands at the path that the settings say. -/
theorem map_fst_templateDumps (settings : Settings) (paths : RunFiles) (page : TemplatePage) :
    (templateDumps settings paths page).map Prod.fst =
      if settings.dumpTemplate then [paths.dumpDirectory.join templateDumpName] else [] := by
  rw [templateDumps]
  split <;> rfl

/-- The dumps of a run stand at the paths that its data say. -/
theorem map_fst_dumpsOf (h : Passed settings client space template ready) (paths : RunFiles)
    (page : TemplatePage) :
    (dumpsOf settings paths page ready).map Prod.fst = dumpPaths settings paths ready.data := by
  rw [dumpsOf, dumpPaths, List.map_append, map_fst_templateDumps,
    map_fst_articleDumps h.articles]

/-- Dumps and report are all that a run writes when no row needs another run. -/
theorem Cleared.writes (h : Cleared settings client paths space template page ready)
    {after : FileTree}
    (hconcluded : FileTree.Writes [paths.report.place] paths.report.directories
      (writeDumps space.files (dumpsOf settings paths page ready)).2 after) :
    FileTree.Writes ((dumpPaths settings paths ready.data ++ [paths.report]).map Path.place)
      ((dumpPaths settings paths ready.data ++ [paths.report]).flatMap Path.directories)
      space.files after := by
  have hdumps := writes_writeDumps (dumpsOf settings paths page ready) space.files
  rw [map_fst_dumpsOf h.passed] at hdumps
  rw [List.map_append, List.flatMap_append, List.map_singleton, List.flatMap_singleton]
  exact (hdumps.mono (List.subset_append_left _ _) (List.subset_append_left _ _)).trans
    (hconcluded.mono (List.subset_append_right _ _) (List.subset_append_right _ _))

/-! ### Whole runs -/

/-- A run that is prepared with the data of another, with the same wiki and the same kept templates,
has its outcomes and leaves the wiki as it does. -/
theorem Cleared.endsLike (h : Cleared settings client paths space template page ready)
    (upload : List Article → Activity σ (List RowOutcome)) :
    ∀ (paths' : RunFiles) (space' : Workspace σ),
      space'.wiki = space.wiki → space'.store = space.store →
      (∃ ready', ((prepare settings client paths').run.run space').value = .ok ready' ∧
        ready'.data = ready.data) →
      EndsLike settings client paths' upload space'
        ((upload ready.articles).run (wikiAfterFetch settings client space)).value
        ((upload ready.articles).run (wikiAfterFetch settings client space)).state := by
  intro paths' space' hwiki hstore hprepared
  obtain ⟨ready', hready, hdata⟩ := hprepared
  obtain ⟨template', page', hcleared⟩ := cleared_of_prepared hready
  have hrun := hcleared.takes_place upload
  rw [h.passed.articles_unique hcleared.passed hwiki hstore hdata, wikiAfterFetch, hwiki] at hrun
  exact hrun

/-- A run whose upload has an outcome for each article, in their order. -/
theorem runWith_accounts (hplaces : paths.ledger.place ≠ paths.report.place)
    {upload : List Article → Activity σ (List RowOutcome)}
    (hupload : ∀ articles wiki, rowsOf ((upload articles).run wiki).value =
      articles.map fun article => (article.rowId, article.title)) {report : RunResult}
    (hreport : ((runWith settings client paths upload).run space).value = .ok report) :
    ∃ data, Accounts settings client paths upload space report data := by
  obtain ⟨template, page, ready, hcleared⟩ := cleared_of_runWith hreport
  obtain ⟨hvalue, hstate⟩ := hcleared.run upload
  have halign := hcleared.passed.aligned
    (hupload ready.articles (wikiAfterFetch settings client space))
  have hconcluded := concluded_conclude paths
    { readySpace settings client space page
        (writeDumps space.files (dumpsOf settings paths page ready)).2 with
      wiki := ((upload ready.articles).run (wikiAfterFetch settings client space)).state }
    hplaces hcleared.passed.accepted.ids_nodup halign
  obtain ⟨_, hother, houtcomes, hwiki⟩ := hcleared.takes_place upload
  obtain rfl := Except.ok.inj (hreport.symm.trans hother)
  obtain rfl := Except.ok.inj (hvalue.symm.trans hreport)
  have halike := hcleared.endsLike upload
  rw [← houtcomes, ← hwiki] at halike
  refine ⟨ready.data, hcleared.passed.loaded, ?_, ?_, ?_, halike, ?_⟩
  · rw [houtcomes]
    exact halign
  · rw [hcleared.prepared.2, hstate]
    exact hconcluded
  · intro hfinished before after
    have hwrites := hcleared.writes (hconcluded.unneeded hfinished) paths.ledger.place
    have hafter : after = _ :=
      congrArg (fun ended : Workspace σ => ended.files.node? paths.ledger.place) hstate
    -- Where neither a dump nor the report is written, at most a directory is made.
    rcases hwrites with hsame | ⟨hfile, _⟩ | ⟨hdirectory, hnone, hmade⟩
    · exact .inl (hafter.trans hsame)
    · rw [List.map_append, List.map_singleton, List.mem_append, List.mem_singleton] at hfile
      exact .inr (.inl (hfile.resolve_right hplaces))
    · exact .inr (.inr ⟨hnone, hafter.trans hmade, hdirectory⟩)
  · intro paths' hdirectory
    apply halike paths' space rfl rfl
    have hprepare : prepare settings client paths' = prepare settings client paths := by
      rw [prepare, prepare, hdirectory]
    rw [hprepare]
    exact ⟨ready, hcleared.prepared.1, rfl⟩

end Runs

/-- Every run that takes place accounts for its outcomes, whenever it is cancelled, and if the
articles are uploaded by a pool, whatever its schedule. Ledger and report stand at different places,
and any of their writes may fail. -/
theorem run_accounts (settings : Settings) (client : WikiAccess σ) {paths : RunFiles}
    (hplaces : paths.ledger.place ≠ paths.report.place) (space : Workspace σ) :
    (∀ (cancel : CancelAfter) (report : RunResult),
      ((wholeRun settings client paths cancel).run space).value = .ok report →
        ∃ data, Accounts settings client paths (uploadBatch client (uploadPlan settings) cancel)
          space report data) ∧
    ∀ (moves : List Move) (report : RunResult),
      ((runWith settings client paths
        (uploadPooled client (uploadPlan settings) moves)).run space).value = .ok report →
          ∃ data, Accounts settings client paths (uploadPooled client (uploadPlan settings) moves)
            space report data := by
  constructor
  · intro cancel report hreport
    exact runWith_accounts hplaces
      (Upload.rows_uploadBatch client (uploadPlan settings) cancel) hreport
  · intro moves report hreport
    exact runWith_accounts hplaces
      (Upload.rows_uploadPooled client (uploadPlan settings) moves) hreport

/-- A run that is cancelled after the first of two rows, and whose ledger cannot be written because
a file stands where a directory is needed, has the outcomes of one with another ledger. -/
theorem run_accounts_unwritable :
    let settings := sampleSettings 0x3B
    let space := sampleSpace "id;name\n1;Apple\n2;Banana\n"
    let paths : RunFiles := ⟨"data.csv/errored.csv", "run_report.json", "dump"⟩
    let outcomes : List RowOutcome := [⟨"1", "Apple", .created⟩, ⟨"2", "Banana", .notAttempted⟩]
    let ended := (wholeRun settings MemoryWiki.client paths (some 1)).run space
    ended.value = .ok ⟨outcomes, ⟨2, 1, 0, 0, 0, 1, none⟩,
        [.ledger ⟨"data.csv/errored.csv", .alreadyExists⟩]⟩ ∧
      EndsLike settings MemoryWiki.client (.ofSettings settings)
        (uploadBatch MemoryWiki.client (uploadPlan settings) (some 1)) space outcomes
        ended.state.wiki := by
  intro settings space paths outcomes ended
  have hplaces : paths.ledger.place ≠ paths.report.place := by
    decide +kernel
  have hreport : ended.value = .ok ⟨outcomes, ⟨2, 1, 0, 0, 0, 1, none⟩,
      [.ledger ⟨"data.csv/errored.csv", .alreadyExists⟩]⟩ := by
    decide +kernel
  obtain ⟨data, haccounts⟩ :=
    (run_accounts settings MemoryWiki.client hplaces space).1 (some 1) _ hreport
  exact ⟨hreport, haccounts.elsewhere (.ofSettings settings) rfl⟩

/-- If an article is dumped to the path of the ledger, a ledger of an earlier run is lost even
though each row was uploaded. -/
theorem ledger_lost_to_dump :
    let settings := { sampleSettings 0x3B with
      dumpGeneratedArticles := true, erroredArticlesCsv := "dump/1.json" }
    let paths := RunFiles.ofSettings settings
    let earlier := Text.Utf8.encode "id;name\n7;Old\n"
    let space : Workspace MemoryWiki := { sampleSpace "" with files :=
      ⟨[(["data.csv"], .file (Text.Utf8.encode "id;name\n1;Apple\n")), (["dump"], .directory),
        (["dump", "1.json"], .file earlier)]⟩ }
    let ended := (wholeRun settings MemoryWiki.client paths none).run space
    paths.ledger.place ≠ paths.report.place ∧
      ended.value = .ok ⟨[⟨"1", "Apple", .created⟩], ⟨1, 1, 0, 0, 0, 0, none⟩, []⟩ ∧
      space.files.open? paths.ledger = .ok (.file earlier) ∧
      ended.state.files.open? paths.ledger ≠ space.files.open? paths.ledger := by
  decide +kernel

-- A ledger that would be named like the directory of dumps finds that directory in its place.
example :
    let settings := { sampleSettings 0x3B with
      dumpGeneratedArticles := true, erroredArticlesCsv := "dump" }
    let paths := RunFiles.ofSettings settings
    let space := sampleSpace "id;name\n1;Apple\n"
    let ended := (wholeRun settings MemoryWiki.client paths none).run space
    ended.value = .ok ⟨[⟨"1", "Apple", .created⟩], ⟨1, 1, 0, 0, 0, 0, none⟩, []⟩ ∧
      space.files.node? paths.ledger.place = none ∧
      ended.state.files.node? paths.ledger.place = some .directory := by
  decide +kernel

end PageMerge
