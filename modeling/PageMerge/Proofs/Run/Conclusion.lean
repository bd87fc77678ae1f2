import PageMerge.Proofs.Files.Writes
import PageMerge.Proofs.Run.Ledger

/-!
# What is done after the upload

Once the articles are uploaded, the outcomes are counted, the rows that ask for another run are
written to the ledger, and the report is written. A result says exactly what became of that, and a
file that is not written changes nothing else in it.

## Main definitions

* `Counted`: each outcome is counted once, by its kind
* `asksAgain`: a row has an outcome that asks for another run
* `Concluded`: what a result says about counters, ledger and report

## Main results

* `retryRows_eq_filter`: the rows of a ledger are those that ask for another run
* `run_conclude`: the ledger is written, and after it the report
* `concluded_conclude`: ledger, summary and report are accounted for
* `runWith_report`: a report that could be written says what the result says
-/

namespace PageMerge

open PageMerge.Config (Settings)
open PageMerge.Data (DataSet Row)
open PageMerge.Files (FileTree IoError)
open PageMerge.Text (Bytes)
open PageMerge.Upload (Outcome RowOutcome Tally)
open PageMerge.Wiki (Article WikiAccess)
open Workspace

variable {σ : Type}

/-! ### Counting outcomes -/

theorem total_ofOutcomes (outcomes : List RowOutcome) :
    let summary := Tally.ofOutcomes outcomes
    summary.total = summary.created + summary.updated + summary.skippedExisting + summary.failed +
      summary.notAttempted := by
  induction outcomes with
  | nil => rfl
  | cons row rest ih =>
    -- The kinds exclude each other, so that the first outcome adds one to one of the counters.
    have hone : ∀ outcome : Outcome, 1 = (if outcome == .created then 1 else 0) +
        (if outcome == .updated then 1 else 0) + (if outcome == .skippedExisting then 1 else 0) +
        (if Tally.isFailed outcome then 1 else 0) +
        (if outcome == .notAttempted then 1 else 0) := by
      intro outcome
      cases outcome <;> rfl
    have hrow := hone row.outcome
    simp only [Tally.ofOutcomes, List.length_cons, List.countP_cons] at ih ⊢
    omega

theorem needsRetry_eq (outcome : Outcome) :
    outcome.needsRetry = (Tally.isFailed outcome || outcome == .notAttempted) := by
  cases outcome <;> rfl

/-- The outcomes that are counted as failed or not attempted are those that ask for another run. -/
theorem retryCount_eq_zero_iff (outcomes : List RowOutcome) :
    (Tally.ofOutcomes outcomes).retryCount = 0 ↔
      ∀ row ∈ outcomes, row.outcome.needsRetry = false := by
  simp only [Tally.retryCount, Tally.ofOutcomes, Nat.add_eq_zero_iff, List.countP_eq_zero,
    needsRetry_eq, Bool.or_eq_false_iff, Bool.not_eq_true, forall_and]

/-- A summary of as many outcomes counts each of them once, by its kind. -/
structure Counted (summary : Tally) (outcomes : List RowOutcome) (count : Nat) : Prop where
  total : summary.total = count
  total_eq : summary.total = summary.created + summary.updated + summary.skippedExisting +
    summary.failed + summary.notAttempted
  created : summary.created = outcomes.countP (·.outcome == .created)
  updated : summary.updated = outcomes.countP (·.outcome == .updated)
  skippedExisting : summary.skippedExisting = outcomes.countP (·.outcome == .skippedExisting)
  failed : summary.failed = outcomes.countP fun row => Tally.isFailed row.outcome
  notAttempted : summary.notAttempted = outcomes.countP (·.outcome == .notAttempted)

theorem counted_ofOutcomes (outcomes : List RowOutcome) (ledgerPath : Option String) :
    Counted { Tally.ofOutcomes outcomes with ledgerPath } outcomes outcomes.length :=
  ⟨rfl, total_ofOutcomes outcomes, rfl, rfl, rfl, rfl, rfl⟩

/-! ### Rows by their identifiers -/

/-- An outcome with the identifier of the row asks for another run. -/
def asksAgain (outcomes : List RowOutcome) (row : Row) : Bool :=
  outcomes.any fun outcome => outcome.rowId == row.id && outcome.outcome.needsRetry

/-- Rows are taken by their position, but as each identifier stands at one position only, they are
the rows whose identifier has such an outcome. -/
theorem retryRows_eq_filter (rows : List Row) : ∀ outcomes : List RowOutcome,
    (rows.map Row.id).Nodup → outcomes.map RowOutcome.rowId = rows.map Row.id →
      retryRows rows outcomes = rows.filter (asksAgain outcomes) := by
  induction rows with
  | nil => exact fun _ _ _ => rfl
  | cons row rows ih =>
    intro outcomes hids halign
    cases outcomes with
    | nil => cases halign
    | cons outcome outcomes =>
      rw [List.map_cons, List.nodup_cons] at hids
      obtain ⟨hid, hrest⟩ := List.cons.inj halign
      -- No later outcome is about the first row, and the first one is about no later row.
      have hfirst : asksAgain outcomes row = false := by
        rw [asksAgain, List.any_eq_false]
        intro other hother hasks
        rw [Bool.and_eq_true, beq_iff_eq] at hasks
        apply hids.1
        rw [← hrest, ← hasks.1]
        exact List.mem_map_of_mem hother
      have hlater : ∀ later ∈ rows,
          asksAgain (outcome :: outcomes) later = asksAgain outcomes later := by
        intro later hlater
        have hne : (outcome.rowId == later.id) = false := by
          apply beq_false_of_ne
          intro heq
          apply hids.1
          rw [← hid, heq]
          exact List.mem_map_of_mem hlater
        rw [asksAgain, List.any_cons, hne, Bool.false_and, Bool.false_or]
        rfl
      have hself : asksAgain (outcome :: outcomes) row = outcome.outcome.needsRetry := by
        have hbeq : (outcome.rowId == row.id) = true := beq_iff_eq.mpr hid
        rw [asksAgain] at hfirst ⊢
        rw [List.any_cons, hfirst, hbeq, Bool.true_and, Bool.or_false]
      rw [List.filter_cons, List.filter_congr hlater, hself, ← ih outcomes hids.2 hrest]
      exact Upload.unfinished_cons row rows outcome outcomes

/-! ### What is done after the upload -/

/-- The bytes of a ledger of the rows that ask for another run. -/
def ledgerContent (data : DataSet) (outcomes : List RowOutcome) : Bytes :=
  Data.ledgerBytes data (data.rows.filter (asksAgain outcomes))

/-- The ledger is written if an outcome asks for another run. -/
def writeLedger (paths : RunFiles) (outcomes : List RowOutcome) (content : Bytes)
    (tree : FileTree) : Except IoError Unit × FileTree :=
  if outcomes.any (·.outcome.needsRetry) then tree.writeFileWithin paths.ledger content
  else (.ok (), tree)

/-- What is noted of a file that was not written. -/
def noted (fault : IoError → RunFault) : Except IoError Unit → List RunFault
  | .ok _ => []
  | .error cause => [fault cause]

/-- A result once the ledger is written, or is not. -/
def savedResult (paths : RunFiles) (outcomes : List RowOutcome) (written : Except IoError Unit) :
    RunResult where
  outcomes := outcomes
  summary := { Tally.ofOutcomes outcomes with
    ledgerPath := if outcomes.any (·.outcome.needsRetry) && written.isOk then
      some paths.ledger.text else none }
  unwritten := noted (fun cause => .ledger ⟨paths.ledger, cause⟩) written

theorem writeLedger_of_finished {outcomes : List RowOutcome}
    (h : ∀ row ∈ outcomes, row.outcome.needsRetry = false) (paths : RunFiles) (content : Bytes)
    (tree : FileTree) : writeLedger paths outcomes content tree = (.ok (), tree) := by
  have hany : ¬outcomes.any (·.outcome.needsRetry) = true := by
    rw [List.any_eq_true]
    rintro ⟨row, hrow, hretry⟩
    exact Bool.false_ne_true ((h row hrow).symm.trans hretry)
  rw [writeLedger, if_neg hany]

/-- The summary names a ledger if there was one to write and it could be written. -/
theorem ledgerPath_savedResult (paths : RunFiles) (outcomes : List RowOutcome) (content : Bytes)
    (tree : FileTree) :
    (savedResult paths outcomes
        (writeLedger paths outcomes content tree).1).summary.ledgerPath.isSome ↔
      (∃ row ∈ outcomes, row.outcome.needsRetry = true) ∧
        (tree.writeFileWithin paths.ledger content).1 = .ok () := by
  rw [← List.any_eq_true, savedResult]
  by_cases hany : outcomes.any (·.outcome.needsRetry) = true
  · rw [writeLedger, if_pos hany, hany, Bool.true_and]
    cases (tree.writeFileWithin paths.ledger content).1 with
    | ok _ => exact iff_of_true rfl ⟨rfl, rfl⟩
    | error cause =>
      refine iff_of_false Bool.false_ne_true ?_
      rintro ⟨_, hok⟩
      cases hok
  · rw [Bool.not_eq_true] at hany
    rw [hany, Bool.false_and]
    exact iff_of_false Bool.false_ne_true fun h => Bool.false_ne_true h.1

/-- What a result says after the upload, with the files before and after that: its counters, the
ledger, and which files were not written. -/
structure Concluded (paths : RunFiles) (data : DataSet) (before after : FileTree)
    (report : RunResult) : Prop where
  counted : Counted report.summary report.outcomes data.rows.length
  ledgerPath_iff : report.summary.ledgerPath.isSome ↔
    (∃ row ∈ report.outcomes, row.outcome.needsRetry = true) ∧
      (before.writeFileWithin paths.ledger (ledgerContent data report.outcomes)).1 = .ok ()
  ledger : ∀ ledger, report.summary.ledgerPath = some ledger → ledger = paths.ledger.text ∧
    after.open? paths.ledger = .ok (.file (ledgerContent data report.outcomes))
  unneeded : (∀ row ∈ report.outcomes, row.outcome.needsRetry = false) →
    FileTree.Writes [paths.report.place] paths.report.directories before after
  unwritten :
    let saved := writeLedger paths report.outcomes (ledgerContent data report.outcomes) before
    let missing := noted (fun cause => .ledger ⟨paths.ledger, cause⟩) saved.1
    let reported := (ReportDocument.completed report.summary report.outcomes
      (missing.flatMap RunFault.messages)).write paths.report saved.2
    after = reported.2 ∧ report.unwritten = missing ++ noted (.artifact paths.report) reported.1

section Conclusion

variable (paths : RunFiles) (space : Workspace σ)

/-- The ledger is written if it is needed, and the result says what became of it. -/
theorem run_saveLedgerOf (data : DataSet) (outcomes : List RowOutcome) :
    let written := writeLedger paths outcomes
      (Data.ledgerBytes data (retryRows data.rows outcomes)) space.files
    let saved := (saveLedgerOf paths data outcomes).run space
    saved.state = { space with files := written.2 } ∧
      saved.value = savedResult paths outcomes written.1 := by
  -- The program counts the rows, and the ledger asks whether there is one.
  rw [saveLedgerOf, writeLedger]
  cases hany : outcomes.any (·.outcome.needsRetry) with
  | false =>
    have hcount : (Tally.ofOutcomes outcomes).retryCount = 0 := by
      rw [retryCount_eq_zero_iff]
      simpa using hany
    rw [if_pos hcount]
    simp only [savedResult, hany]
    exact ⟨rfl, rfl⟩
  | true =>
    have hcount : (Tally.ofOutcomes outcomes).retryCount ≠ 0 := by
      rw [Ne, retryCount_eq_zero_iff]
      simpa using hany
    rw [if_neg hcount, if_pos rfl]
    simp only [Activity.run_bind, onFiles, Activity.onPart, Activity.run_silent, Data.saveLedger,
      savedResult, hany]
    generalize space.files.writeFileWithin paths.ledger
      (Data.ledgerBytes data (retryRows data.rows outcomes)) = written
    obtain ⟨result, files⟩ := written
    cases result <;> exact ⟨rfl, rfl⟩

theorem run_recordCompleted (report : RunResult) :
    let written := (ReportDocument.completed report.summary report.outcomes
      (report.unwritten.flatMap RunFault.messages)).write paths.report space.files
    let recorded := (recordCompleted paths report).run space
    recorded.state = { space with files := written.2 } ∧
      recorded.value = { report with
        unwritten := report.unwritten ++ noted (.artifact paths.report) written.1 } := by
  simp only [recordCompleted, Activity.run_bind, onFiles, Activity.onPart, Activity.run_silent]
  generalize (ReportDocument.completed report.summary report.outcomes
    (report.unwritten.flatMap RunFault.messages)).write paths.report space.files = written
  obtain ⟨result, files⟩ := written
  cases result with
  | ok _ => exact ⟨rfl, by rw [noted, List.append_nil]; rfl⟩
  | error cause => exact ⟨rfl, rfl⟩

/-- What is done after the upload: the ledger is written, and after it the report. -/
theorem run_conclude (data : DataSet) (outcomes : List RowOutcome) :
    let written := writeLedger paths outcomes
      (Data.ledgerBytes data (retryRows data.rows outcomes)) space.files
    let saved := savedResult paths outcomes written.1
    let reported := (ReportDocument.completed saved.summary outcomes
      (saved.unwritten.flatMap RunFault.messages)).write paths.report written.2
    let concluded := (conclude paths data outcomes).run space
    concluded.state = { space with files := reported.2 } ∧ concluded.value =
      { saved with unwritten := saved.unwritten ++ noted (.artifact paths.report) reported.1 } := by
  obtain ⟨hsaved, hvalue⟩ := run_saveLedgerOf paths space data outcomes
  have hrecorded := run_recordCompleted paths
    ((saveLedgerOf paths data outcomes).run space).state
    ((saveLedgerOf paths data outcomes).run space).value
  simp only [conclude, Activity.run_bind]
  generalize (saveLedgerOf paths data outcomes).run space = saved at hsaved hvalue hrecorded ⊢
  obtain ⟨value, state, events⟩ := saved
  obtain rfl : state = _ := hsaved
  obtain rfl : value = _ := hvalue
  exact hrecorded

/-- The report stands at its place when nothing was left unwritten, and it says what the result
says. -/
theorem conclude_report {data : DataSet} {outcomes : List RowOutcome}
    (h : ((conclude paths data outcomes).run space).value.unwritten = []) :
    let concluded := (conclude paths data outcomes).run space
    concluded.state.files.open? paths.report =
      .ok (.file (ReportDocument.completed concluded.value.summary outcomes []).bytes) := by
  obtain ⟨hstate, hvalue⟩ := run_conclude paths space data outcomes
  rw [hvalue, List.append_eq_nil_iff] at h
  obtain ⟨hsaved, hreported⟩ := h
  dsimp only
  rw [hvalue, hstate]
  rw [hsaved, List.flatMap_nil] at hreported ⊢
  dsimp only at hreported ⊢
  rw [ReportDocument.write] at hreported ⊢
  generalize hwritten : FileTree.writeFileWithin _ paths.report _ = written at hreported ⊢
  obtain ⟨result, files⟩ := written
  cases result with
  | ok _ => exact FileTree.open?_written hwritten
  | error cause => cases hreported

/-- Ledger, summary and report are accounted for. -/
theorem concluded_conclude (hplaces : paths.ledger.place ≠ paths.report.place) {data : DataSet}
    {outcomes : List RowOutcome} (hids : (data.rows.map Row.id).Nodup)
    (halign : outcomes.map RowOutcome.rowId = data.rows.map Row.id) :
    Concluded paths data space.files ((conclude paths data outcomes).run space).state.files
      ((conclude paths data outcomes).run space).value := by
  have hlength : outcomes.length = data.rows.length := by
    rw [← List.length_map RowOutcome.rowId, halign, List.length_map]
  have hcontent : Data.ledgerBytes data (retryRows data.rows outcomes) =
      ledgerContent data outcomes := by
    rw [ledgerContent, retryRows_eq_filter data.rows outcomes hids halign]
  have hledger : ∀ ledger, _ → _ :=
    fun ledger => @conclude_ledger _ paths space data outcomes ledger hplaces
  obtain ⟨hstate, hvalue⟩ := run_conclude paths space data outcomes
  rw [hvalue] at hledger ⊢
  rw [hstate] at hledger ⊢
  rw [hcontent] at hledger ⊢
  constructor
  case counted =>
    rw [← hlength]
    exact counted_ofOutcomes outcomes _
  case ledgerPath_iff => exact ledgerPath_savedResult ..
  case ledger => exact hledger
  case unneeded =>
    intro hfinished
    have hunwritten : writeLedger paths outcomes _ space.files = _ :=
      writeLedger_of_finished hfinished paths (ledgerContent data outcomes) space.files
    rw [hunwritten, ReportDocument.write]
    exact FileTree.writes_writeFileWithin space.files paths.report _
  case unwritten => exact ⟨rfl, rfl⟩

end Conclusion

/-- A file that could not be written is no reason to refuse a run. -/
theorem Concluded.isRefusal_of_mem {paths : RunFiles} {data : DataSet} {before after : FileTree}
    {report : RunResult} (h : Concluded paths data before after report) {fault : RunFault}
    (hfault : fault ∈ report.unwritten) : fault.isRefusal = false := by
  have hnoted : ∀ {wrap : IoError → RunFault} {written : Except IoError Unit},
      fault ∈ noted wrap written → ∃ cause, fault = wrap cause := by
    intro wrap written hmem
    cases written with
    | ok _ => cases hmem
    | error cause => exact ⟨cause, List.mem_singleton.mp hmem⟩
  obtain ⟨-, hunwritten⟩ := h.unwritten
  rw [hunwritten, List.mem_append] at hfault
  rcases hfault with hledger | hreport
  · obtain ⟨cause, rfl⟩ := hnoted hledger
    rfl
  · obtain ⟨cause, rfl⟩ := hnoted hreport
    rfl

/-- A result with nothing unwritten names the ledger if a row asks for another run. -/
theorem Concluded.ledgerPath_of_retry {paths : RunFiles} {data : DataSet}
    {before after : FileTree} {report : RunResult}
    (h : Concluded paths data before after report) (hunwritten : report.unwritten = [])
    (hretry : ∃ row ∈ report.outcomes, row.outcome.needsRetry = true) :
    report.summary.ledgerPath = some paths.ledger.text := by
  obtain ⟨-, hmissing⟩ := h.unwritten
  rw [hunwritten, writeLedger, if_pos (List.any_eq_true.mpr hretry)] at hmissing
  have hledger := h.ledgerPath_iff
  generalize before.writeFileWithin paths.ledger (ledgerContent data report.outcomes) = written
    at hmissing hledger
  obtain ⟨result, files⟩ := written
  cases result with
  | error cause => cases hmissing
  | ok _ =>
    obtain ⟨ledger, hnamed⟩ := Option.isSome_iff_exists.mp (hledger.mpr ⟨hretry, rfl⟩)
    rw [hnamed, (h.ledger ledger hnamed).1]

/-- A run that leaves nothing unwritten ends with a report that says what its result says. -/
theorem runWith_report {settings : Settings} {client : WikiAccess σ} {paths : RunFiles}
    {upload : List Article → Activity σ (List RowOutcome)} {space : Workspace σ}
    {report : RunResult}
    (hreport : ((runWith settings client paths upload).run space).value = .ok report)
    (hunwritten : report.unwritten = []) :
    ((runWith settings client paths upload).run space).state.files.open? paths.report =
      .ok (.file (ReportDocument.completed report.summary report.outcomes []).bytes) := by
  rcases runWith_cases settings client paths upload space with
    ⟨e, _, _, hvalue, _⟩ | ⟨ready, after, _, hvalue, hstate⟩
  · rw [hvalue] at hreport
    cases hreport
  · rw [hvalue] at hreport
    obtain rfl := Except.ok.inj hreport
    rw [hstate, outcomes_conclude]
    exact conclude_report paths _ hunwritten

end PageMerge
