import PageMerge.Proofs.Run.DumpNames
import PageMerge.Proofs.Run.Footprint
import PageMerge.Run.Command

/-!
# What a run leaves as it was

Whatever becomes of a run, it writes files at few places: its dumps, each of them right in the
directory of dumps whatever the identifiers of the rows are, and once it is prepared the ledger and
the report. Every other file keeps its bytes. The preparation asks the wiki for the template and for
nothing else.

A dump does not spare the ledger or the report if the path of one of them leads to it. This is the
only way in which the preparation writes them.

## Main definitions

* `IsIn`: a path leads to something right in a directory
* `Spares`: files have changed at given paths only
* `PreparationFrame`: what the preparation of a run leaves as it was

## Main results

* `conclude_writes`, `runWith_writes`: what is written after the upload, and by a whole run
* `run_frame`: whole runs
* `ledger_replaced_by_dump`: a preparation that writes the ledger
-/

namespace PageMerge

open PageMerge.Config (Settings)
open PageMerge.Data (DataSet)
open PageMerge.Files (FileTree IsName Path)
open PageMerge.Upload (CancelAfter Move RowOutcome uploadPooled)
open PageMerge.Wiki (Article MemoryWiki WikiAccess)
open RunActivity (Ensures)
open Workspace

variable {σ : Type}

/-! ### Files that are spared -/

/-- The path leads to something right in the directory. -/
def IsIn (directory path : Path) : Prop :=
  ∃ name, IsName name ∧ path.place = directory.place ++ [name]

/-- Files were written at the paths and directories made for them, and nothing else has changed. So
at every other place there are the files that were there, and they can be opened as before. -/
structure Spares (paths : List Path) (before after : FileTree) : Prop where
  writes : FileTree.Writes (paths.map Path.place) (paths.flatMap Path.directories) before after
  file_iff : ∀ place ∉ paths.map Path.place, ∀ content,
    after.node? place = some (.file content) ↔ before.node? place = some (.file content)
  kept : ∀ (path : Path) content, path.place ∉ paths.map Path.place →
    before.open? path = .ok (.file content) → after.open? path = .ok (.file content)

/-- Files are spared by what is not written at their places. -/
theorem spares_of_writes {paths : List Path} {before after : FileTree}
    (h : FileTree.Writes (paths.map Path.place) (paths.flatMap Path.directories) before after) :
    Spares paths before after where
  writes := h
  file_iff _ hplace _ := ⟨h.file_of_not_mem hplace, h.file_kept hplace⟩
  kept _ _ hplace hopen := FileTree.open?_of_keeps h.keepsDirectories (h.file_kept hplace) hopen

/-! ### After the upload -/

/-- What is done after the upload writes the ledger and the report, whether it can or not. -/
theorem conclude_writes (paths : RunFiles) (data : DataSet) (outcomes : List RowOutcome)
    (space : Workspace σ) :
    FileTree.Writes [paths.ledger.place, paths.report.place]
      (paths.ledger.directories ++ paths.report.directories) space.files
      ((conclude paths data outcomes).run space).state.files := by
  rw [(run_conclude paths space data outcomes).1]
  have hledger : ∀ content, FileTree.Writes [paths.ledger.place] paths.ledger.directories
      space.files (writeLedger paths outcomes content space.files).2 := by
    intro content
    rw [writeLedger]
    split
    · exact FileTree.writes_writeFileWithin space.files paths.ledger content
    · exact FileTree.Writes.refl _ _ _
  exact ((hledger _).mono (by simp) (List.subset_append_left _ _)).trans
    ((FileTree.writes_writeFileWithin _ paths.report _).mono (by simp)
      (List.subset_append_right _ _))

/-- The files that a run may write, with the files that it finds. -/
def runPaths (settings : Settings) (paths : RunFiles) (tree : FileTree) : List Path :=
  plannedDumps settings paths tree ++ [paths.ledger, paths.report]

/-- A run writes its dumps, its ledger and its report, however it ends. -/
theorem runWith_writes (settings : Settings) (client : WikiAccess σ) (paths : RunFiles)
    (upload : List Article → Activity σ (List RowOutcome)) (space : Workspace σ) :
    FileTree.Writes ((runPaths settings paths space.files).map Path.place)
      ((runPaths settings paths space.files).flatMap Path.directories) space.files
      ((runWith settings client paths upload).run space).state.files := by
  have hprepared := prepare_writes settings client paths space
  rw [Ensures] at hprepared
  simp only [runWith, Activity.run_bind]
  rw [runPaths, List.map_append, List.flatMap_append]
  generalize (prepare settings client paths).run.run space = prepared at hprepared ⊢
  obtain ⟨value, after, events⟩ := prepared
  -- Dumps come first, and what is written after them is decided by how the preparation ends.
  refine (hprepared.mono (List.subset_append_left _ _) (List.subset_append_left _ _)).trans ?_
  cases value with
  | error e =>
    refine (recordRejected_writes paths e after).mono ?_ ?_
    · simp
    · exact List.subset_append_of_subset_right _ (by simp)
  | ok ready =>
    simp only [Activity.run_bind, Activity.run_pure]
    have hconcluded := conclude_writes paths ready.data
      ((onWiki (upload ready.articles)).run after).value
      ((onWiki (upload ready.articles)).run after).state
    refine hconcluded.mono ?_ ?_
    · simp
    · exact List.subset_append_of_subset_right _ (by simp)

/-! ### Preparation -/

/-- Every dump goes right into the directory of dumps, whatever the identifiers of the rows are. -/
theorem isIn_of_mem_plannedDumps {settings : Settings} {paths : RunFiles} {tree : FileTree}
    {dump : Path} (h : dump ∈ plannedDumps settings paths tree) :
    IsIn paths.dumpDirectory dump := by
  rw [plannedDumps] at h
  split at h
  · rw [dumpPaths, List.mem_append] at h
    rcases h with htemplate | harticle
    · split at htemplate
      · obtain rfl := List.mem_singleton.mp htemplate
        rw [templateDumpName_eq 0]
        exact ⟨_, isName_dumpName templateRowId 0, place_dump paths.dumpDirectory templateRowId 0⟩
      · cases htemplate
    · split at harticle
      · obtain ⟨row, _, rfl⟩ := List.mem_map.mp harticle
        exact ⟨_, isName_dumpName row.id row.line, place_dump paths.dumpDirectory row.id row.line⟩
      · cases harticle
  · cases h

/-- The preparation of a run makes no call but the one that asks for the template. -/
theorem prepare_congr (settings : Settings) (paths : RunFiles) {client client' : WikiAccess σ}
    (h : client'.fetchTemplate = client.fetchTemplate) :
    prepare settings client' paths = prepare settings client paths := by
  rw [prepare, prepare, fetchTemplate, fetchTemplate, h]

/-- The preparation of a run leaves the wiki as it was, or as it is after the template was asked
for. -/
theorem prepare_wiki (settings : Settings) (client : WikiAccess σ) (paths : RunFiles)
    (space : Workspace σ) :
    (prepare settings client paths).Ensures space fun _ after =>
      after.wiki = space.wiki ∨ after.wiki = wikiAfterFetch settings client space := by
  refine (prepare_ensures settings client paths space).mono ?_
  rintro (e | ready) after h
  · cases e with
    | data cause => exact .inl (congrArg Workspace.wiki h)
    | _ => exact .inr h
  · exact .inr h.1

-- After that, a wiki in memory has recorded one call more.
example (settings : Settings) (space : Workspace MemoryWiki) :
    wikiAfterFetch settings MemoryWiki.client space =
      space.wiki.record (.fetchTemplate settings.templateId) := rfl

/-- What the preparation of a run leaves as it was, whatever its end is: it writes no file but its
dumps, which are right in the directory of dumps, and makes no call but the one that asks for the
template, once or not at all. -/
structure PreparationFrame (settings : Settings) (client : WikiAccess σ) (paths : RunFiles)
    (space : Workspace σ) : Prop where
  inside : ∀ dump ∈ plannedDumps settings paths space.files, IsIn paths.dumpDirectory dump
  spares : Spares (plannedDumps settings paths space.files) space.files
    ((prepare settings client paths).run.run space).state.files
  wiki : ((prepare settings client paths).run.run space).state.wiki = space.wiki ∨
    ((prepare settings client paths).run.run space).state.wiki =
      wikiAfterFetch settings client space
  calls : ∀ client' : WikiAccess σ, client'.fetchTemplate = client.fetchTemplate →
    prepare settings client' paths = prepare settings client paths

theorem preparationFrame (settings : Settings) (client : WikiAccess σ) (paths : RunFiles)
    (space : Workspace σ) : PreparationFrame settings client paths space where
  inside _ := isIn_of_mem_plannedDumps
  spares := spares_of_writes (prepare_writes settings client paths space)
  wiki := prepare_wiki settings client paths space
  calls _ := prepare_congr settings paths

/-- A check is a preparation, but for what it says about it. -/
theorem state_checkCommand (settings : Settings) (client : WikiAccess σ) (paths : RunFiles)
    (space : Workspace σ) :
    ((checkCommand settings client paths).run space).state =
      ((prepare settings client paths).run.run space).state := by
  simp only [checkCommand, Activity.run_bind]
  cases ((prepare settings client paths).run.run space).value <;> rfl

/-! ### Whole runs -/

/-- A preparation writes no file but the dumps, in the directory of dumps, and so does a check; a
whole run writes the ledger and the report besides, whenever it is cancelled, and if the articles
are uploaded by a pool, whatever its schedule. However they end, every other file is spared. -/
theorem run_frame (settings : Settings) (client : WikiAccess σ) (paths : RunFiles)
    (space : Workspace σ) :
    PreparationFrame settings client paths space ∧
    ((checkCommand settings client paths).run space).state =
      ((prepare settings client paths).run.run space).state ∧
    (∀ cancel : CancelAfter, Spares (runPaths settings paths space.files) space.files
      ((wholeRun settings client paths cancel).run space).state.files) ∧
    ∀ moves : List Move, Spares (runPaths settings paths space.files) space.files
      ((runWith settings client paths
        (uploadPooled client (uploadPlan settings) moves)).run space).state.files :=
  ⟨preparationFrame settings client paths space, state_checkCommand settings client paths space,
    fun _ => spares_of_writes (runWith_writes settings client paths _ space),
    fun _ => spares_of_writes (runWith_writes settings client paths _ space)⟩

/-- If the path of the ledger leads to the dump of an article, the ledger of an earlier run is
written over before anything is uploaded. -/
theorem ledger_replaced_by_dump :
    let settings := { sampleSettings 0x3B with
      dumpGeneratedArticles := true, erroredArticlesCsv := "dump/1.json" }
    let paths := RunFiles.ofSettings settings
    let earlier := Text.Utf8.encode "id;name\n7;Old\n"
    let space : Workspace MemoryWiki := { sampleSpace "" with files :=
      ⟨[(["data.csv"], .file (Text.Utf8.encode "id;name\n1;Apple\n")), (["dump"], .directory),
        (["dump", "1.json"], .file earlier)]⟩ }
    let prepared := (prepare settings MemoryWiki.client paths).run.run space
    prepared.value.isOk = true ∧ space.files.open? paths.ledger = .ok (.file earlier) ∧
      prepared.state.files.open? paths.ledger ≠ space.files.open? paths.ledger := by
  decide +kernel

end PageMerge
