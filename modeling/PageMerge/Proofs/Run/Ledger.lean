import PageMerge.Proofs.Config.Settings
import PageMerge.Proofs.Data.Ledger
import PageMerge.Proofs.Files.Place
import PageMerge.Proofs.Run.Gate

/-!
# The ledger of a run

A run that names a ledger in its summary has written it, and what is written after it, the report,
stands at another place. So the next run reads the very bytes, and whether it finds the rows in them
that asked for another run is decided by the header, the delimiter and these rows.

## Main results

* `saveLedgerOf_ledger`, `conclude_ledger`: a ledger that is named was written, and is left as it is
* `ledger_reloads_iff`: when the ledger of a run is loaded as it was written
* `ledger_lost`: a run whose ledger cannot be loaded
-/

namespace PageMerge

open PageMerge.Config (Account ConfigFile Settings)
open PageMerge.Data (DataSet Row)
open PageMerge.Files (FileTree)
open PageMerge.Upload (RowOutcome)
open PageMerge.Wiki (Article MemoryWiki WikiAccess)
open Workspace

variable {σ : Type}

/-! ### Rows that need another run -/

/-- The rows that need another run are rows of the data, in their order. -/
theorem retryRows_sublist (rows : List Row) (outcomes : List RowOutcome) :
    (retryRows rows outcomes).Sublist rows :=
  Upload.unfinished_sublist rows outcomes

/-! ### Writing the ledger -/

section Writing

variable (paths : RunFiles) (space : Workspace σ)

/-- A ledger that is named in the summary was written. -/
theorem saveLedgerOf_ledger {data : DataSet} {outcomes : List RowOutcome} {ledger : String}
    (h : ((saveLedgerOf paths data outcomes).run space).value.summary.ledgerPath = some ledger) :
    ledger = paths.ledger.text ∧
      space.files.writeFileWithin paths.ledger
        (Data.ledgerBytes data (retryRows data.rows outcomes)) =
          (.ok (), ((saveLedgerOf paths data outcomes).run space).state.files) := by
  rw [saveLedgerOf] at h ⊢
  split at h
  · cases h
  rename_i hcount
  rw [if_neg hcount]
  simp only [Activity.run_bind, onFiles, Activity.onPart, Activity.run_silent] at h ⊢
  rw [Data.saveLedger] at h ⊢
  generalize space.files.writeFileWithin paths.ledger
    (Data.ledgerBytes data (retryRows data.rows outcomes)) = written at h ⊢
  obtain ⟨result, files⟩ := written
  cases result with
  | ok _ => exact ⟨(Option.some.inj h).symm, rfl⟩
  | error e => cases h

/-- A report keeps the summary. -/
theorem summary_recordCompleted (report : RunResult) :
    ((recordCompleted paths report).run space).value.summary = report.summary := by
  simp only [recordCompleted, Activity.run_bind]
  split <;> rfl

/-- A report takes no file away but the one at its place. -/
theorem grows_recordCompleted (report : RunResult) :
    FileTree.Grows paths.report.place space.files
      ((recordCompleted paths report).run space).state.files := by
  have hgrows := FileTree.grows_writeFileWithin space.files paths.report
    (ReportDocument.completed report.summary report.outcomes
      (report.unwritten.flatMap RunFault.messages)).bytes
  simp only [recordCompleted, Activity.run_bind, onFiles, Activity.onPart, Activity.run_silent]
  split <;> exact hgrows

/-- A ledger that is named in the summary stands at its place when the run ends. -/
theorem conclude_ledger {data : DataSet} {outcomes : List RowOutcome} {ledger : String}
    (hplaces : paths.ledger.place ≠ paths.report.place)
    (h : ((conclude paths data outcomes).run space).value.summary.ledgerPath = some ledger) :
    ledger = paths.ledger.text ∧
      ((conclude paths data outcomes).run space).state.files.open? paths.ledger =
        .ok (.file (Data.ledgerBytes data (retryRows data.rows outcomes))) := by
  -- The report is the only file that is written after the ledger.
  simp only [conclude, Activity.run_bind] at h ⊢
  rw [summary_recordCompleted] at h
  obtain ⟨hledger, hwritten⟩ := saveLedgerOf_ledger paths space h
  exact ⟨hledger, FileTree.open?_of_writeFileWithin hwritten (grows_recordCompleted ..) hplaces⟩

end Writing

/-! ### Loading the ledger -/

/-- The ledger of a run with settings that were judged is loaded with the header of the data and
the rows that need another run, with the same values, exactly if these are reloadable. -/
theorem ledger_reloads_iff {file : ConfigFile} {tree : FileTree} {account : Account}
    {settings : Settings} (hsettings : file.validate tree account = .ok settings)
    (client : WikiAccess σ) {paths : RunFiles} (hplaces : paths.ledger.place ≠ paths.report.place)
    (upload : List Article → Activity σ (List RowOutcome)) (space : Workspace σ)
    {report : RunResult} {ledger : String}
    (hreport : ((runWith settings client paths upload).run space).value = .ok report)
    (hledger : report.summary.ledgerPath = some ledger) :
    ∃ data,
      (Data.loadFile space.files settings.dataCsv settings.delimiter
        settings.idColumnHeader).1 = .ok data ∧
      ((∃ reloaded,
          (Data.loadFile ((runWith settings client paths upload).run space).state.files
            ⟨ledger⟩ settings.delimiter settings.idColumnHeader).1 = .ok reloaded ∧
          Data.SameContent data.headers (retryRows data.rows report.outcomes) reloaded) ↔
        Data.Reloadable data (retryRows data.rows report.outcomes)) := by
  rcases runWith_cases settings client paths upload space with
    ⟨e, _, _, hvalue, _⟩ | ⟨ready, after, hend, hvalue, hstate⟩
  · rw [hvalue] at hreport
    cases hreport
  obtain ⟨_, template, hpassed⟩ := hend
  refine ⟨ready.data, hpassed.loaded, ?_⟩
  -- What is written after the upload decides about the ledger.
  rw [hstate]
  rw [hvalue] at hreport
  obtain rfl := Except.ok.inj hreport
  generalize (onWiki (upload ready.articles)).run after = uploaded at hledger ⊢
  obtain ⟨rfl, hopen⟩ := conclude_ledger paths uploaded.state hplaces hledger
  rw [outcomes_conclude]
  -- The data were loaded with the delimiter of the settings, which was judged.
  obtain ⟨content, _, hloads⟩ := (Data.loadFile_eq_ok_iff ..).mp hpassed.loaded
  have hdelimiter := hloads.delimiter_eq
  have hjudged := Config.checkDelimiter_of_validate hsettings
  rw [← hdelimiter] at hloads hjudged ⊢
  have hascii := (Config.ascii_of_checkDelimiter hjudged).1
  have hbreak := Config.isBreak_of_checkDelimiter hjudged
  rw [← Data.ledger_loads_iff hloads hascii hbreak (retryRows_sublist ready.data.rows _)]
  apply exists_congr
  intro reloaded
  rw [Data.loadFile_eq_ok_iff, hopen]
  simp

/-! ### Two runs that are cancelled -/

/-- A configuration with a delimiter. -/
def sampleConfig (delimiter : String) : ConfigFile where
  confluence := ⟨"http://wiki.test/", "100", "#", "~", "DOCS", "", .zero false, 30⟩
  behavior := ⟨false, false, false, 1⟩
  data := ⟨"data.csv", delimiter, "id", "errored_articles.csv"⟩

/-- The settings of this configuration. -/
def sampleSettings (delimiter : UInt8) : Settings where
  baseUrl := "http://wiki.test/"
  templateId := "100"
  marks := ⟨'#', '~', by decide, by decide, by decide⟩
  uploadSpace := "DOCS"
  uploadParentPageId := none
  delay := ⟨0⟩
  timeoutSeconds := 30
  overwriteExistingArticles := false
  dumpTemplate := false
  dumpGeneratedArticles := false
  uploadWorkers := 1
  dataCsv := "data.csv"
  delimiter := delimiter
  idColumnHeader := "id"
  erroredArticlesCsv := "errored_articles.csv"
  account := ⟨"user", "secret"⟩

/-- A wiki with a template, and a file with article data. -/
def sampleSpace (content : String) : Workspace MemoryWiki where
  wiki := .empty (some ⟨"100", "#name#", "text", "page", "storage"⟩)
  files := ⟨[(["data.csv"], .file (Text.Utf8.encode content))]⟩
  store := .empty

/-- A run that is cancelled after the first of two rows leaves a ledger from which the second one
is loaded. -/
theorem ledger_reloads_iff_cancelled :
    let settings := sampleSettings 0x3B
    let space := sampleSpace "id;name\n1;Apple\n2;Banana\n"
    let ended := (wholeRun settings MemoryWiki.client (.ofSettings settings) (some 1)).run space
    ∃ reloaded,
      (Data.loadFile ended.state.files "errored_articles.csv" 0x3B "id").1 = .ok reloaded ∧
      Data.SameContent ["id", "name"] [⟨3, "2", [("id", "2"), ("name", "Banana")]⟩] reloaded := by
  intro settings space ended
  let report : RunResult := ⟨[⟨"1", "Apple", .created⟩, ⟨"2", "Banana", .notAttempted⟩],
    ⟨2, 1, 0, 0, 0, 1, some "errored_articles.csv"⟩, []⟩
  have hsettings : (sampleConfig ";").validate space.files ⟨"user", "secret"⟩ = .ok settings := by
    decide +kernel
  have hplaces : (RunFiles.ofSettings settings).ledger.place ≠
      (RunFiles.ofSettings settings).report.place := by
    decide +kernel
  have hreport : ended.value = .ok report := by
    decide +kernel
  obtain ⟨data, hdata, hiff⟩ := ledger_reloads_iff hsettings MemoryWiki.client hplaces
    (Upload.uploadBatch MemoryWiki.client (uploadPlan settings) (some 1)) space hreport rfl
  have hloaded : (Data.loadFile space.files "data.csv" 0x3B "id").1 =
      .ok ⟨["id", "name"], 0x3B, "id", [⟨2, "1", [("id", "1"), ("name", "Apple")]⟩,
        ⟨3, "2", [("id", "2"), ("name", "Banana")]⟩]⟩ := by
    decide +kernel
  obtain rfl := Except.ok.inj (hdata.symm.trans hloaded)
  refine hiff.mpr ⟨?_, ?_⟩
  · decide
  · intro record _ hquote
    cases hquote

/-- If the delimiter is a quote, the ledger of a run that is cancelled before its first row, whose
value between two others is empty, is not even a table. -/
theorem ledger_lost :
    let settings := sampleSettings 0x22
    let space := sampleSpace "id\"note\"name\n1\" \"Apple\n"
    let ended := (wholeRun settings MemoryWiki.client (.ofSettings settings) (some 0)).run space
    (sampleConfig "\"").validate space.files ⟨"user", "secret"⟩ = .ok settings ∧
      (RunFiles.ofSettings settings).ledger.place ≠ (RunFiles.ofSettings settings).report.place ∧
      ended.value = .ok ⟨[⟨"1", "Apple", .notAttempted⟩],
        ⟨1, 0, 0, 0, 0, 1, some "errored_articles.csv"⟩, []⟩ ∧
      ¬ ∃ reloaded,
        (Data.loadFile ended.state.files "errored_articles.csv" 0x22 "id").1 = .ok reloaded := by
  intro settings space ended
  have hmalformed : (Data.loadFile ended.state.files "errored_articles.csv" 0x22 "id").1 =
      .error (.malformed (.unequalLengths ⟨1, 2, 13⟩ 3 2)) := by
    decide +kernel
  refine ⟨by decide +kernel, by decide +kernel, by decide +kernel, ?_⟩
  rintro ⟨reloaded, hloaded⟩
  rw [hmalformed] at hloaded
  cases hloaded

end PageMerge
