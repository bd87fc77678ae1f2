import PageMerge.Proofs.Files.Names
import PageMerge.Proofs.Run.Conclusion
import PageMerge.Proofs.Run.Dumps

/-!
# A report in the place of the ledger

A run on its own writes its report next to its ledger, after it. Nothing keeps the settings from
giving the ledger the name of the report. Then the report takes the place of the ledger, although
the result of the run still names it. Under any other name the ledger stays as it was written.

## Main results

* `RunFiles.place_eq_iff`: when ledger and report of a run on its own have one place
* `ledgerBytes_ne_bytes`: no report looks like a ledger
* `ledger_kept_iff`: when the ledger that a run names is there at its end
* `ledger_replaced`: a run whose report takes the place of its ledger
-/

namespace PageMerge

open PageMerge.Config (Settings)
open PageMerge.Data (DataSet Row)
open PageMerge.Files (FileTree IsName Path)
open PageMerge.Json (Value)
open PageMerge.Upload (RowOutcome)
open PageMerge.Wiki (Article MemoryWiki WikiAccess)
open Workspace

variable {σ : Type}

/-! ### Places next to each other -/

/-- The report stands next to the ledger, and so in its place only under its name. -/
theorem RunFiles.place_eq_iff {ledger : Path} {name : String} (hname : IsName name)
    (hlast : (FileTree.namesOf ledger).getLast? = some name) :
    (ofLedger ledger).ledger.place = (ofLedger ledger).report.place ↔ name = reportName.text := by
  obtain ⟨directory, hparent, hplace⟩ := Path.exists_parent hname hlast
  have hreport : (ofLedger ledger).report.place = directory.place ++ [reportName.text] := by
    have hjoin : (directory.join reportName.text).place = _ := Path.place_join directory (by decide)
    rw [Files.follow_singleton (by decide)] at hjoin
    rw [ofLedger, hparent]
    exact hjoin
  rw [hreport]
  change ledger.place = _ ↔ _
  rw [hplace, List.append_cancel_left_eq, List.cons.injEq, and_iff_left rfl]

/-! ### Ledgers are no reports -/

/-- A ledger ends with a line break. -/
theorem getLast?_ledgerBytes (data : DataSet) (rows : List Row) :
    (Data.ledgerBytes data rows).getLast? = some 0x0A := by
  have hrecord : ∀ fields : List Text.Bytes,
      (Csv.writeRecord data.delimiter fields).getLast? = some 0x0A := by
    intro fields
    rw [Csv.writeRecord, List.getLast?_append]
    rfl
  rw [Data.ledgerBytes, List.getLast?_append, hrecord]
  rcases List.eq_nil_or_concat rows with rfl | ⟨before, last, rfl⟩
  · rfl
  · rw [List.concat_eq_append, List.flatMap_append, List.getLast?_append, List.flatMap_singleton,
      hrecord]
    rfl

/-- A report ends with a brace. -/
theorem getLast?_bytes (document : ReportDocument) : document.bytes.getLast? = some 0x7D := by
  have hobject : ∀ (member : String × Value) (members : List (String × Value)),
      (Text.Utf8.encode (Value.object (member :: members)).pretty).getLast? = some 0x7D := by
    intro member members
    obtain ⟨name, value⟩ := member
    rw [Value.pretty, Value.prettyChars, Text.Utf8.encode, String.toList_ofList, ← List.cons_append,
      List.flatMap_append, List.getLast?_append, List.flatMap_singleton]
    rfl
  cases document <;> exact hobject ..

theorem ledgerBytes_ne_bytes (data : DataSet) (rows : List Row) (document : ReportDocument) :
    Data.ledgerBytes data rows ≠ document.bytes := by
  intro heq
  have hlast := getLast?_ledgerBytes data rows
  rw [heq, getLast?_bytes] at hlast
  exact absurd hlast (by decide)

/-! ### What stands in the place of the ledger -/

/-- A ledger that is named in the summary was written under some name. -/
theorem exists_name_of_ledgerPath (paths : RunFiles) (space : Workspace σ) {data : DataSet}
    {outcomes : List RowOutcome} {ledger : String}
    (h : ((conclude paths data outcomes).run space).value.summary.ledgerPath = some ledger) :
    ledger = paths.ledger.text ∧
      ∃ name, IsName name ∧ (FileTree.namesOf paths.ledger).getLast? = some name := by
  simp only [conclude, Activity.run_bind] at h
  rw [summary_recordCompleted] at h
  obtain ⟨hledger, hwritten⟩ := saveLedgerOf_ledger paths space h
  obtain ⟨base, hbase⟩ := FileTree.exists_of_writeFileWithin hwritten
  exact ⟨hledger, FileTree.exists_name_of_writeFile hbase⟩

/-- What is done after an upload keeps the ledger exactly if it is not named like the report. -/
theorem conclude_ledger_iff {paths : RunFiles} {path : Path} (hpaths : paths = .ofLedger path)
    (space : Workspace σ) {data : DataSet} {outcomes : List RowOutcome} {ledger : String}
    (hunwritten : ((conclude paths data outcomes).run space).value.unwritten = [])
    (hledger : ((conclude paths data outcomes).run space).value.summary.ledgerPath = some ledger) :
    ((conclude paths data outcomes).run space).state.files.open? ⟨ledger⟩ =
        .ok (.file (Data.ledgerBytes data (retryRows data.rows outcomes))) ↔
      (FileTree.namesOf path).getLast? ≠ some RunFiles.reportName.text := by
  have hreport := conclude_report paths space hunwritten
  have hkept := fun hplaces => conclude_ledger paths space hplaces hledger
  obtain ⟨rfl, name, hname, hlast⟩ := exists_name_of_ledgerPath paths space hledger
  generalize (conclude paths data outcomes).run space = concluded at *
  have hplaces : paths.ledger.place = paths.report.place ↔ name = RunFiles.reportName.text := by
    subst hpaths
    exact RunFiles.place_eq_iff hname hlast
  have hpath : path = paths.ledger := by rw [hpaths]; rfl
  rw [hpath, hlast, Ne, Option.some_inj, ← hplaces]
  by_cases hsame : paths.ledger.place = paths.report.place
  -- The report was written, and nothing else can be in its place.
  · refine iff_of_false ?_ (not_not_intro hsame)
    intro hopen
    have hfound := FileTree.node?_of_open? hopen
    rw [hsame, FileTree.node?_of_open? hreport] at hfound
    injection hfound with hnode
    injection hnode with hbytes
    exact ledgerBytes_ne_bytes data _ _ hbytes.symm
  · exact iff_of_true (hkept hsame).2 hsame

/-- A run on its own that leaves nothing unwritten and names a ledger keeps it exactly if the ledger
is not named like the report. -/
theorem ledger_kept_iff (settings : Settings) (client : WikiAccess σ)
    (upload : List Article → Activity σ (List RowOutcome)) (space : Workspace σ)
    {report : RunResult} {ledger : String}
    (hreport : ((runWith settings client (.ofSettings settings) upload).run space).value =
      .ok report)
    (hunwritten : report.unwritten = []) (hledger : report.summary.ledgerPath = some ledger) :
    ∃ data,
      (Data.loadFile space.files settings.dataCsv settings.delimiter
        settings.idColumnHeader).1 = .ok data ∧
      (((runWith settings client (.ofSettings settings) upload).run space).state.files.open?
          ⟨ledger⟩ =
            .ok (.file (Data.ledgerBytes data (retryRows data.rows report.outcomes))) ↔
        (FileTree.namesOf settings.erroredArticlesCsv).getLast? ≠
          some RunFiles.reportName.text) := by
  generalize hpaths : RunFiles.ofSettings settings = paths at hreport ⊢
  obtain ⟨template, page, ready, hcleared⟩ := cleared_of_runWith hreport
  obtain ⟨hvalue, hstate⟩ := hcleared.run upload
  refine ⟨ready.data, hcleared.passed.loaded, ?_⟩
  -- Whatever the upload does, the files that count are written after it.
  obtain rfl := Except.ok.inj (hvalue.symm.trans hreport)
  rw [hstate, outcomes_conclude]
  exact conclude_ledger_iff hpaths.symm _ hunwritten hledger

/-- A run that is cancelled after the first of two rows keeps its ledger in a directory of its
own. -/
theorem ledger_kept_iff_cancelled :
    let settings := { sampleSettings 0x3B with erroredArticlesCsv := "out/errored.csv" }
    let space := sampleSpace "id;name\n1;Apple\n2;Banana\n"
    let ended := (wholeRun settings MemoryWiki.client (.ofSettings settings) (some 1)).run space
    ended.value = .ok ⟨[⟨"1", "Apple", .created⟩, ⟨"2", "Banana", .notAttempted⟩],
        ⟨2, 1, 0, 0, 0, 1, some "out/errored.csv"⟩, []⟩ ∧
      ended.state.files.open? "out/errored.csv" =
        .ok (.file (Text.Utf8.encode "id;name\n2;Banana\n")) := by
  intro settings space ended
  have hreport : ended.value = .ok ⟨[⟨"1", "Apple", .created⟩, ⟨"2", "Banana", .notAttempted⟩],
      ⟨2, 1, 0, 0, 0, 1, some "out/errored.csv"⟩, []⟩ := by
    decide +kernel
  obtain ⟨data, hdata, hkept⟩ := ledger_kept_iff settings MemoryWiki.client
    (Upload.uploadBatch MemoryWiki.client (uploadPlan settings) (some 1)) space hreport rfl rfl
  have hloaded : (Data.loadFile space.files "data.csv" 0x3B "id").1 =
      .ok ⟨["id", "name"], 0x3B, "id", [⟨2, "1", [("id", "1"), ("name", "Apple")]⟩,
        ⟨3, "2", [("id", "2"), ("name", "Banana")]⟩]⟩ := by
    decide +kernel
  obtain rfl := Except.ok.inj (hdata.symm.trans hloaded)
  refine ⟨hreport, (hkept.mpr (by decide)).trans ?_⟩
  decide +kernel

/-- A run that is cancelled before its only row names a ledger, but what stands there is its
report. -/
theorem ledger_replaced :
    let settings := { sampleSettings 0x3B with erroredArticlesCsv := "run_report.json" }
    let space := sampleSpace "id;name\n1;Apple\n"
    let ended := (wholeRun settings MemoryWiki.client (.ofSettings settings) (some 0)).run space
    let file := { sampleConfig ";" with data := ⟨"data.csv", ";", "id", "run_report.json"⟩ }
    file.validate space.files ⟨"user", "secret"⟩ = .ok settings ∧
      ended.value = .ok ⟨[⟨"1", "Apple", .notAttempted⟩],
        ⟨1, 0, 0, 0, 0, 1, some "run_report.json"⟩, []⟩ ∧
      ended.state.files.open? "run_report.json" ≠
        .ok (.file (Text.Utf8.encode "id;name\n1;Apple\n")) := by
  intro settings space ended file
  have hreport : ended.value = .ok ⟨[⟨"1", "Apple", .notAttempted⟩],
      ⟨1, 0, 0, 0, 0, 1, some "run_report.json"⟩, []⟩ := by
    decide +kernel
  have hplace : (RunFiles.ofSettings settings).report = "run_report.json" := by
    decide +kernel
  refine ⟨by decide +kernel, hreport, ?_⟩
  -- The report is there, and it does not end like a ledger.
  intro hledger
  have hopen := runWith_report hreport rfl
  rw [hplace] at hopen
  injection hopen.symm.trans hledger with hnode
  injection hnode with hbytes
  have hlast := getLast?_bytes (.completed ⟨1, 0, 0, 0, 0, 1, some "run_report.json"⟩
    [⟨"1", "Apple", .notAttempted⟩] [])
  rw [hbytes] at hlast
  exact absurd hlast (by decide)

end PageMerge
