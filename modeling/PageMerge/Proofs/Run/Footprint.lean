import PageMerge.Proofs.Run.Account

/-!
# What a run writes

The preparation of a run writes nothing but dumps, whatever its end is, and where they stand is
decided by the settings and the data alone. After it, a run writes its report, and its ledger if
rows need another run.

## Main definitions

* `plannedDumps`: where a run dumps to with the files that it finds

## Main results

* `prepare_writes`: what the preparation of a run writes
* `runWith_unprepared_writes`: what a run writes that does not take place
* `Concluded.unnamed_writes`: what is written after an upload if no ledger is named
-/

namespace PageMerge

open PageMerge.Config (Settings)
open PageMerge.Data (DataSet)
open PageMerge.Files (FileTree Path)
open PageMerge.Json (Value)
open PageMerge.Upload (RowOutcome)
open PageMerge.Wiki (Article WikiAccess)
open RunActivity (Ensures ensures_pure)
open Workspace

variable {σ : Type}

/-- The paths that a run dumps to with the files that it finds: none if its data cannot be used. -/
def plannedDumps (settings : Settings) (paths : RunFiles) (tree : FileTree) : List Path :=
  match (Data.loadFile tree settings.dataCsv settings.delimiter settings.idColumnHeader).1 with
  | .ok data => dumpPaths settings paths data
  | .error _ => []

theorem plannedDumps_of_loaded {settings : Settings} {tree : FileTree} {data : DataSet}
    (h : (Data.loadFile tree settings.dataCsv settings.delimiter settings.idColumnHeader).1 =
      .ok data) (paths : RunFiles) :
    plannedDumps settings paths tree = dumpPaths settings paths data := by
  rw [plannedDumps, h]

/-! ### Preparation -/

/-- Dumps change the files at their paths. -/
theorem Dumped.writes {before after : Workspace σ} {dumps : List (Path × Value)}
    {result : Except RunFault Unit} (h : Dumped before dumps result after) {paths : List Path}
    (hpaths : dumps.map Prod.fst ⊆ paths) :
    FileTree.Writes (paths.map Path.place) (paths.flatMap Path.directories) before.files
      after.files := by
  have hdirectories : (dumps.map Prod.fst).flatMap Path.directories ⊆
      paths.flatMap Path.directories := by
    intro place hplace
    rw [List.mem_flatMap] at hplace ⊢
    obtain ⟨path, hpath, hplace⟩ := hplace
    exact ⟨path, hpaths hpath, hplace⟩
  rw [h.2]
  exact (writes_writeDumps dumps before.files).mono (List.map_subset _ hpaths) hdirectories

/-- The preparation of a run writes nothing but dumps, whatever its end is. -/
theorem prepare_writes (settings : Settings) (client : WikiAccess σ) (paths : RunFiles)
    (space : Workspace σ) :
    (prepare settings client paths).Ensures space fun _ after =>
      FileTree.Writes ((plannedDumps settings paths space.files).map Path.place)
        ((plannedDumps settings paths space.files).flatMap Path.directories) space.files
        after.files := by
  rw [prepare]
  -- Up to the first dump no file changes.
  refine (loadData_ensures settings space).bind ?_ ?_
  case refine_2 =>
    rintro e _ ⟨_, rfl⟩
    exact FileTree.Writes.refl _ _ _
  rintro data _ ⟨hdata, rfl⟩
  rw [plannedDumps_of_loaded (eq_ok_of_mapError hdata)]
  refine (fetchTemplate_ensures settings _ client).bind ?_ ?_
  case refine_2 =>
    rintro e _ ⟨_, rfl⟩
    exact FileTree.Writes.refl _ _ _
  rintro page fetched ⟨_, hfetched⟩
  have hfiles : fetched.files = _ := congrArg Workspace.files hfetched
  dsimp only at hfiles ⊢
  rw [← hfiles]
  have htemplate : (templateDumps settings paths page).map Prod.fst ⊆
      dumpPaths settings paths data := by
    rw [map_fst_templateDumps, dumpPaths]
    exact List.subset_append_left _ _
  -- A dump that fails has written some of the files.
  have hdump := templateDump_writes settings paths page fetched
  refine Ensures.whenever hdump.1 hdump.2 ?_ ?_
  case refine_2 => exact fun e after herror => herror.writes htemplate
  intro _ dumped hdumped
  have hwrites := hdumped.writes htemplate
  refine (parseTemplate_ensures settings dumped page).bind ?_ ?_
  case refine_2 =>
    rintro e _ ⟨_, rfl⟩
    exact hwrites
  rintro template _ ⟨_, rfl⟩
  refine (generateArticles_ensures _ template data).bind ?_ ?_
  case refine_2 =>
    rintro e _ ⟨_, rfl⟩
    exact hwrites
  rintro articles generated ⟨harticles, hgenerated⟩
  -- The articles have the names of the rows, and so their dumps were planned with the data.
  have harticle : (articleDumps settings paths ⟨data, articles⟩).map Prod.fst ⊆
      dumpPaths settings paths data := by
    rw [map_fst_articleDumps (eq_ok_of_mapError harticles), dumpPaths]
    exact List.subset_append_right _ _
  have hdump := articleDumps_writes settings paths ⟨data, articles⟩ generated
  subst hgenerated
  refine Ensures.whenever hdump.1 hdump.2 ?_ ?_
  case refine_2 => exact fun e after herror => hwrites.trans (herror.writes harticle)
  intro _ after hwritten
  exact ensures_pure (hwrites.trans (hwritten.writes harticle))

/-! ### Whole runs -/

/-- Where a run writes that names no ledger: its dumps and its report. -/
def unnamedWrites (settings : Settings) (paths : RunFiles) (tree : FileTree) : List Path :=
  plannedDumps settings paths tree ++ [paths.report]

/-- The report of a run that does not take place is all that it writes after its preparation. -/
theorem recordRejected_writes (paths : RunFiles) (error : RunFault) (space : Workspace σ) :
    FileTree.Writes [paths.report.place] paths.report.directories space.files
      ((recordRejected paths error).run space).state.files := by
  have hreport := FileTree.writes_writeFileWithin space.files paths.report
    (ReportDocument.rejected error.id error.messages).bytes
  simp only [recordRejected, onFiles, Activity.run_bind, Activity.onPart, Activity.run_silent]
  split <;> exact hreport

/-- A summary that names no ledger belongs to an upload after which nothing is written but the
report; of a ledger that could not be written, its directories may be left. -/
theorem Concluded.unnamed_writes {paths : RunFiles} {data : DataSet} {before after : FileTree}
    {report : RunResult} (h : Concluded paths data before after report)
    (hnone : report.summary.ledgerPath = none) :
    FileTree.Writes [paths.report.place] (paths.ledger.directories ++ paths.report.directories)
      before after := by
  obtain ⟨hafter, -⟩ := h.unwritten
  have hreport := fun (tree : FileTree) (document : ReportDocument) =>
    (FileTree.writes_writeFileWithin tree paths.report document.bytes).mono
      (List.Subset.refl _) (List.subset_append_right paths.ledger.directories _)
  have hledger := h.ledgerPath_iff
  rw [hnone] at hledger
  rw [hafter]
  by_cases hretry : ∃ row ∈ report.outcomes, row.outcome.needsRetry = true
  -- A ledger that was written would be named.
  · rw [writeLedger, if_pos (List.any_eq_true.mpr hretry)]
    generalize hwritten : before.writeFileWithin paths.ledger
      (ledgerContent data report.outcomes) = written at hledger ⊢
    obtain ⟨result, base⟩ := written
    cases result with
    | ok _ => cases hledger.mpr ⟨hretry, rfl⟩
    | error cause =>
      refine FileTree.Writes.trans ?_ (hreport base _)
      exact (FileTree.writes_of_writeFileWithin_error hwritten).mono (List.nil_subset _)
        (List.subset_append_left _ _)
  · have hfinished : ∀ row ∈ report.outcomes, row.outcome.needsRetry = false := by
      intro row hrow
      rw [← Bool.not_eq_true]
      exact fun hneeds => hretry ⟨row, hrow, hneeds⟩
    rw [writeLedger_of_finished hfinished]
    exact hreport before _

/-- A run that does not take place. -/
theorem runWith_unprepared_writes {settings : Settings} {client : WikiAccess σ} {paths : RunFiles}
    {upload : List Article → Activity σ (List RowOutcome)} {space : Workspace σ} {e : RunFault}
    (h : ((runWith settings client paths upload).run space).value = .error e) :
    FileTree.Writes ((unnamedWrites settings paths space.files).map Path.place)
      ((unnamedWrites settings paths space.files).flatMap Path.directories) space.files
      ((runWith settings client paths upload).run space).state.files := by
  have hprepared := prepare_writes settings client paths space
  rw [Ensures] at hprepared
  simp only [runWith, Activity.run_bind] at h ⊢
  rw [unnamedWrites, List.map_append, List.flatMap_append, List.map_singleton,
    List.flatMap_singleton]
  generalize (prepare settings client paths).run.run space = prepared at h hprepared ⊢
  obtain ⟨value, after, events⟩ := prepared
  cases value with
  | ok ready => cases h
  | error e =>
    exact (hprepared.mono (List.subset_append_left _ _) (List.subset_append_left _ _)).trans
      ((recordRejected_writes paths e after).mono (List.subset_append_right _ _)
        (List.subset_append_right _ _))

end PageMerge
