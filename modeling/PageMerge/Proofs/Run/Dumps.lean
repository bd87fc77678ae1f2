import PageMerge.Proofs.Run.Gate

/-!
# Runs that have passed every check

Once a run has passed every check, nothing but a dump that is not written keeps it from uploading
its articles. What it dumps is decided by its settings, its template and its articles, so such a run
can be followed to its end: through the dumps, the upload, and what is written after it.

## Main definitions

* `dumpsOf`: what a run dumps, in order
* `writeDumps`: the files after dumps, up to the first one that is not written
* `Cleared`: a run has passed every check and has dumped what its settings say
* `readySpace`: the workspace in which the articles of a run are uploaded

## Main results

* `prepare_of_passed`: where the preparation ends when every check is passed
* `Cleared.run`: how a run goes on after that
* `cleared_of_runWith`: a run that took place
-/

namespace PageMerge

open PageMerge.Config (Settings)
open PageMerge.Data (Row)
open PageMerge.Files (FileTree Path)
open PageMerge.Json (Value)
open PageMerge.Upload (RowOutcome)
open PageMerge.Wiki (Article TemplatePage WikiAccess)
open Workspace
open RunActivity (Ensures ensures_attempt ensures_pure)

variable {σ : Type}

/-! ### Dumps -/

/-- Writes JSON values to files, until one of them is not written. -/
def writeDumps (tree : FileTree) : List (Path × Value) → Except RunFault Unit × FileTree
  | [] => (.ok (), tree)
  | (path, value) :: rest =>
    match tree.writeFileWithin path (Text.Utf8.encode value.pretty) with
    | (.ok (), written) => writeDumps written rest
    | (.error cause, written) => (.error (.artifact path cause), written)

/-- The dump of a template page. -/
def templateDumps (settings : Settings) (paths : RunFiles) (page : TemplatePage) :
    List (Path × Value) :=
  if settings.dumpTemplate then [(paths.dumpDirectory.join templateDumpName, templateJson page)]
  else []

/-- The dump of the article of a row. -/
def articleDump (directory : Path) (entry : Row × Article) : Path × Value :=
  (directory.join (dumpName entry.2.rowId entry.1.line), articleJson entry.2)

/-- The dumps of articles. -/
def articleDumps (settings : Settings) (paths : RunFiles) (ready : ReadyRun) :
    List (Path × Value) :=
  if settings.dumpGeneratedArticles then
    (ready.data.rows.zip ready.articles).map (articleDump paths.dumpDirectory)
  else []

/-- What a run dumps: its template page before its articles. -/
def dumpsOf (settings : Settings) (paths : RunFiles) (page : TemplatePage) (ready : ReadyRun) :
    List (Path × Value) :=
  templateDumps settings paths page ++ articleDumps settings paths ready

theorem writeDumps_append (first rest : List (Path × Value)) : ∀ tree : FileTree,
    writeDumps tree (first ++ rest) =
      match writeDumps tree first with
      | (.ok (), written) => writeDumps written rest
      | (.error e, written) => (.error e, written) := by
  induction first with
  | nil => exact fun _ => rfl
  | cons dump first ih =>
    intro tree
    obtain ⟨path, value⟩ := dump
    rw [List.cons_append, writeDumps, writeDumps]
    generalize tree.writeFileWithin path (Text.Utf8.encode value.pretty) = result
    obtain ⟨result, written⟩ := result
    cases result with
    | ok _ => exact ih written
    | error cause => rfl

/-- Dumps that are written, and then others. -/
theorem writeDumps_append_of_ok {tree : FileTree} {first : List (Path × Value)}
    (h : (writeDumps tree first).1 = .ok ()) (rest : List (Path × Value)) :
    writeDumps tree (first ++ rest) = writeDumps (writeDumps tree first).2 rest := by
  rw [writeDumps_append]
  generalize writeDumps tree first = written at h ⊢
  obtain ⟨_, files⟩ := written
  cases h
  rfl

/-- Nothing but a file that is not written ends dumps with an error. -/
theorem exists_of_writeDumps_error (dumps : List (Path × Value)) : ∀ (tree : FileTree)
    {e : RunFault}, (writeDumps tree dumps).1 = .error e →
      ∃ dump ∈ dumps, ∃ cause, e = .artifact dump.1 cause := by
  induction dumps with
  | nil =>
    intro tree e h
    cases h
  | cons dump rest ih =>
    intro tree e h
    obtain ⟨path, value⟩ := dump
    rw [writeDumps] at h
    generalize tree.writeFileWithin path (Text.Utf8.encode value.pretty) = result at h
    obtain ⟨result, written⟩ := result
    cases result with
    | ok _ =>
      obtain ⟨other, hother, hcause⟩ := ih written h
      exact ⟨other, List.mem_cons_of_mem _ hother, hcause⟩
    | error cause =>
      cases h
      exact ⟨_, List.mem_cons_self .., cause, rfl⟩

/-- A run dumps nothing unless its settings say so. -/
theorem dumps_of_mem {settings : Settings} {paths : RunFiles} {page : TemplatePage}
    {ready : ReadyRun} {dump : Path × Value} (h : dump ∈ dumpsOf settings paths page ready) :
    settings.dumpTemplate = true ∨ settings.dumpGeneratedArticles = true := by
  -- Without either setting there is nothing that could be dumped.
  by_contra hnone
  rw [not_or] at hnone
  rw [dumpsOf, templateDumps, if_neg hnone.1, articleDumps, if_neg hnone.2] at h
  cases h

/-- The dumps were written, up to the first one that was not, and nothing else was done. -/
def Dumped (before : Workspace σ) (dumps : List (Path × Value)) (result : Except RunFault Unit)
    (after : Workspace σ) : Prop :=
  result = (writeDumps before.files dumps).1 ∧
    after = { before with files := (writeDumps before.files dumps).2 }

section Dumped

variable {space middle after : Workspace σ} {first rest : List (Path × Value)}
  {result : Except RunFault Unit}

theorem Dumped.append (h : Dumped space first (.ok ()) middle)
    (h' : Dumped middle rest result after) : Dumped space (first ++ rest) result after := by
  obtain ⟨hok, rfl⟩ := h
  obtain ⟨rfl, rfl⟩ := h'
  rw [Dumped, writeDumps_append_of_ok hok.symm]
  exact ⟨rfl, rfl⟩

/-- No further dump is written after one that was not. -/
theorem Dumped.append_error {e : RunFault} (h : Dumped space first (.error e) after) :
    Dumped space (first ++ rest) (.error e) after := by
  obtain ⟨he, rfl⟩ := h
  rw [Dumped, writeDumps_append]
  generalize writeDumps space.files first = written at he ⊢
  obtain ⟨_, files⟩ := written
  cases he
  exact ⟨rfl, rfl⟩

end Dumped

theorem dump_writes (path : Path) (value : Value) (space : Workspace σ) :
    (dump path value : RunActivity σ Unit).Ensures space (Dumped space [(path, value)]) := by
  refine (ensures_attempt _ _).mono ?_
  rintro _ _ ⟨rfl, rfl⟩
  simp only [Dumped, onFiles, Activity.onPart, Activity.run_silent, writeDumps]
  generalize space.files.writeFileWithin path (Text.Utf8.encode value.pretty) = written
  obtain ⟨result, files⟩ := written
  cases result <;> exact ⟨rfl, rfl⟩

theorem dumpArticles_writes (directory : Path) (rows : List (Row × Article)) :
    ∀ space : Workspace σ, (dumpArticles directory rows : RunActivity σ Unit).Ensures space
      (Dumped space (rows.map (articleDump directory))) := by
  induction rows with
  | nil => exact fun space => ensures_pure ⟨rfl, rfl⟩
  | cons entry rest ih =>
    intro space
    obtain ⟨row, article⟩ := entry
    refine (dump_writes _ _ space).bind ?_ ?_
    · intro _ middle hfirst
      exact (ih middle).mono fun _ _ hrest => hfirst.append hrest
    · exact fun e after herror => herror.append_error

theorem templateDump_writes (settings : Settings) (paths : RunFiles) (page : TemplatePage)
    (space : Workspace σ) :
    (settings.dumpTemplate = true →
      (dump (paths.dumpDirectory.join templateDumpName) (templateJson page) :
        RunActivity σ Unit).Ensures space (Dumped space (templateDumps settings paths page))) ∧
    (¬settings.dumpTemplate = true →
      Dumped space (templateDumps settings paths page) (.ok ()) space) := by
  constructor
  · intro hdump
    rw [templateDumps, if_pos hdump]
    exact dump_writes ..
  · intro hdump
    rw [templateDumps, if_neg hdump]
    exact ⟨rfl, rfl⟩

theorem articleDumps_writes (settings : Settings) (paths : RunFiles) (ready : ReadyRun)
    (space : Workspace σ) :
    (settings.dumpGeneratedArticles = true →
      (dumpArticles paths.dumpDirectory (ready.data.rows.zip ready.articles) :
        RunActivity σ Unit).Ensures space (Dumped space (articleDumps settings paths ready))) ∧
    (¬settings.dumpGeneratedArticles = true →
      Dumped space (articleDumps settings paths ready) (.ok ()) space) := by
  constructor
  · intro hdump
    rw [articleDumps, if_pos hdump]
    exact dumpArticles_writes ..
  · intro hdump
    rw [articleDumps, if_neg hdump]
    exact ⟨rfl, rfl⟩

/-! ### Preparation -/

/-- The workspace in which the articles of a run are uploaded, if the files are what they are then:
the template was fetched and is kept. -/
def readySpace (settings : Settings) (client : WikiAccess σ) (space : Workspace σ)
    (page : TemplatePage) (files : FileTree) : Workspace σ :=
  ⟨wikiAfterFetch settings client space, files, (space.store.obtain settings.marks page).2⟩

/-- When every check is passed, only a dump that is not written keeps the run from being ready. -/
theorem prepare_of_passed {settings : Settings} {client : WikiAccess σ} (paths : RunFiles)
    {space : Workspace σ} {template : Template} {page : TemplatePage} {ready : ReadyRun}
    (hpassed : Passed settings client space template ready)
    (hpage : ((client.fetchTemplate settings.templateId).run space.wiki).value = .ok page) :
    (prepare settings client paths).Ensures space fun result after =>
      result = (writeDumps space.files (dumpsOf settings paths page ready)).1.map (fun _ => ready) ∧
      ∀ made, result = .ok made → after = readySpace settings client space page
        (writeDumps space.files (dumpsOf settings paths page ready)).2 := by
  obtain ⟨other, scanned, hother, hscanned, rfl⟩ := hpassed.parsed
  obtain rfl : other = page := Except.ok.inj (hother.symm.trans hpage)
  -- No stage but a dump ends the run.
  have hload := loadData_ensures settings space
  rw [hpassed.loaded] at hload
  have hfetch := fetchTemplate_ensures settings space client
  rw [hpage] at hfetch
  rw [prepare]
  refine hload.step (hfetch.step ?_)
  generalize hfetched : ({ space with wiki := _ } : Workspace σ) = fetched
  dsimp only
  have hdump := templateDump_writes settings paths other fetched
  refine Ensures.whenever hdump.1 hdump.2 ?_ ?_
  case refine_2 =>
    intro e after herror
    subst hfetched
    have hall : Dumped _ (dumpsOf settings paths other ready) _ _ := herror.append_error
    refine ⟨congrArg (Except.map fun _ => ready) hall.1, ?_⟩
    intro made hmade
    cases hmade
  rintro _ dumped htemplate
  -- The dump left the kept templates alone.
  have hstore : dumped.store = space.store := by
    rw [htemplate.2, ← hfetched]
  have hparse := parseTemplate_ensures settings dumped other
  rw [hstore, hscanned] at hparse
  refine hparse.step ?_
  generalize hparsed : ({ dumped with store := _ } : Workspace σ) = parsed
  have hgenerate := generateArticles_ensures parsed scanned.template ready.data
  rw [hpassed.articles] at hgenerate
  refine hgenerate.step ?_
  have hdump := articleDumps_writes settings paths ready parsed
  -- The articles are dumped in the files that the dump of the template left.
  have hall : writeDumps space.files (dumpsOf settings paths other ready) =
      writeDumps parsed.files (articleDumps settings paths ready) := by
    rw [dumpsOf, ← hparsed, htemplate.2, ← hfetched]
    rw [← hfetched] at htemplate
    exact writeDumps_append_of_ok htemplate.1.symm _
  refine Ensures.whenever hdump.1 hdump.2 ?_ ?_
  · rintro _ after ⟨hok, hafter⟩
    refine ensures_pure ⟨?_, ?_⟩
    · rw [hall, ← hok]
      rfl
    · intro made _
      rw [hall, hafter, ← hparsed, htemplate.2, ← hfetched]
      rfl
  · rintro e after ⟨he, -⟩
    rw [hall, ← he]
    refine ⟨rfl, ?_⟩
    intro made hmade
    cases hmade

/-! ### Whole runs -/

/-- A run has passed every check and has dumped what its settings say. -/
structure Cleared (settings : Settings) (client : WikiAccess σ) (paths : RunFiles)
    (space : Workspace σ) (template : Template) (page : TemplatePage) (ready : ReadyRun) :
    Prop where
  passed : Passed settings client space template ready
  fetched : ((client.fetchTemplate settings.templateId).run space.wiki).value = .ok page
  dumped : (writeDumps space.files (dumpsOf settings paths page ready)).1 = .ok ()

section Runs

variable {settings : Settings} {client : WikiAccess σ} {paths : RunFiles} {space : Workspace σ}

theorem runWith_of_unprepared {e : RunFault}
    (h : ((prepare settings client paths).run.run space).value = .error e)
    (upload : List Article → Activity σ (List RowOutcome)) :
    ((runWith settings client paths upload).run space).value = .error e := by
  simp only [runWith, Activity.run_bind, h]
  rfl

theorem runWith_of_prepared {ready : ReadyRun}
    (h : ((prepare settings client paths).run.run space).value = .ok ready)
    (upload : List Article → Activity σ (List RowOutcome)) :
    let start := ((prepare settings client paths).run.run space).state
    let uploaded := (upload ready.articles).run start.wiki
    let ended := (conclude paths ready.data uploaded.value).run
      { start with wiki := uploaded.state }
    ((runWith settings client paths upload).run space).value = .ok ended.value ∧
      ((runWith settings client paths upload).run space).state = ended.state := by
  simp only [runWith, Activity.run_bind, h]
  exact ⟨rfl, rfl⟩

variable {template : Template} {page : TemplatePage} {ready : ReadyRun}

theorem Cleared.prepared (h : Cleared settings client paths space template page ready) :
    ((prepare settings client paths).run.run space).value = .ok ready ∧
      ((prepare settings client paths).run.run space).state = readySpace settings client space page
        (writeDumps space.files (dumpsOf settings paths page ready)).2 := by
  obtain ⟨hvalue, hstate⟩ := prepare_of_passed paths h.passed h.fetched
  rw [h.dumped] at hvalue
  exact ⟨hvalue, hstate ready hvalue⟩

/-- A run that has passed every check and has dumped what its settings say uploads its articles. -/
theorem Cleared.run (h : Cleared settings client paths space template page ready)
    (upload : List Article → Activity σ (List RowOutcome)) :
    let start := readySpace settings client space page
      (writeDumps space.files (dumpsOf settings paths page ready)).2
    let uploaded := (upload ready.articles).run start.wiki
    let ended := (conclude paths ready.data uploaded.value).run
      { start with wiki := uploaded.state }
    ((runWith settings client paths upload).run space).value = .ok ended.value ∧
      ((runWith settings client paths upload).run space).state = ended.state := by
  have hrun := runWith_of_prepared h.prepared.1 upload
  rw [h.prepared.2] at hrun
  exact hrun

/-- Such a run takes place, and its outcomes and its wiki are those of the upload. -/
theorem Cleared.takes_place (h : Cleared settings client paths space template page ready)
    (upload : List Article → Activity σ (List RowOutcome)) :
    ∃ report, ((runWith settings client paths upload).run space).value = .ok report ∧
      report.outcomes =
        ((upload ready.articles).run (wikiAfterFetch settings client space)).value ∧
      ((runWith settings client paths upload).run space).state.wiki =
        ((upload ready.articles).run (wikiAfterFetch settings client space)).state := by
  obtain ⟨hvalue, hstate⟩ := h.run upload
  refine ⟨_, hvalue, outcomes_conclude .., ?_⟩
  rw [hstate]
  exact wiki_conclude ..

/-- A run that is prepared has passed every check and has dumped what its settings say. -/
theorem cleared_of_prepared {ready : ReadyRun}
    (h : ((prepare settings client paths).run.run space).value = .ok ready) :
    ∃ template page, Cleared settings client paths space template page ready := by
  have hend := prepare_ensures settings client paths space
  rw [Ensures, h] at hend
  obtain ⟨_, template, hpassed⟩ := hend
  obtain ⟨page, _, hpage, _, _⟩ := hpassed.parsed
  refine ⟨template, page, hpassed, hpage, ?_⟩
  -- The preparation would have ended with a dump that was not written.
  obtain ⟨hvalue, _⟩ := prepare_of_passed paths hpassed hpage
  rw [h] at hvalue
  obtain ⟨⟨⟩, hok, _⟩ := exists_of_map_eq_ok hvalue.symm
  exact hok

/-- A run that took place has passed every check and has dumped what its settings say. -/
theorem cleared_of_runWith {upload : List Article → Activity σ (List RowOutcome)}
    {report : RunResult}
    (h : ((runWith settings client paths upload).run space).value = .ok report) :
    ∃ template page ready, Cleared settings client paths space template page ready := by
  cases hprepared : ((prepare settings client paths).run.run space).value with
  | error e =>
    rw [runWith_of_unprepared hprepared] at h
    cases h
  | ok ready =>
    obtain ⟨template, page, hcleared⟩ := cleared_of_prepared hprepared
    exact ⟨template, page, ready, hcleared⟩

/-- A run that has passed every check takes place, unless a dump is not written. -/
theorem Passed.cleared_or_undumped (hpassed : Passed settings client space template ready)
    (hpage : ((client.fetchTemplate settings.templateId).run space.wiki).value = .ok page)
    (paths : RunFiles) (upload : List Article → Activity σ (List RowOutcome)) :
    Cleared settings client paths space template page ready ∨
    ∃ dump ∈ dumpsOf settings paths page ready, ∃ cause,
      ((runWith settings client paths upload).run space).value =
        .error (.artifact dump.1 cause) := by
  cases hdumped : (writeDumps space.files (dumpsOf settings paths page ready)).1 with
  | ok _ => exact .inl ⟨hpassed, hpage, hdumped⟩
  | error e =>
    obtain ⟨dump, hdump, cause, rfl⟩ := exists_of_writeDumps_error _ _ hdumped
    obtain ⟨hvalue, _⟩ := prepare_of_passed paths hpassed hpage
    rw [hdumped] at hvalue
    exact .inr ⟨dump, hdump, cause, runWith_of_unprepared hvalue upload⟩

end Runs

end PageMerge
