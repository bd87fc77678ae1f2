import PageMerge.Proofs.Run.Conclusion
import PageMerge.Proofs.Run.Dumps
import PageMerge.Proofs.Upload.Interleaving
import PageMerge.Run.Command

/-!
# What the exit status says

A command ends with one of three statuses, and each of them says what stands in the wiki and in the
files: that all rows have their pages, that the rows that have none are in the ledger, or that the
run was refused or its files were not written. A page that a row has published is still there in the
end, as the rows of a run have different titles.

## Main definitions

* `hasFailed`, `HasPage`: how a row of a run can end
* `Recorded`: a run took place, and its report stands at its place
* `Unpublished`: the ledger of a run holds the rows that failed
* `Refused`, `Unrecorded`: why a command ends with a fatal status
* `StatusSound`: what each status says

## Main results

* `run_runCommandWith`: the status is decided by the result of the run
* `exit_status_sound`: every command that nothing cancels
-/

namespace PageMerge

open PageMerge.Config (Settings)
open PageMerge.Data (DataSet Row)
open PageMerge.Files (FileTree IoError)
open PageMerge.Text (Bytes)
open PageMerge.Upload (Move OnCourse RowOutcome Tally Way outcomeIn outcomeOf rowsOf uploadBatch
  uploadPooled)
open PageMerge.Wiki (Article MemoryWiki WikiAccess)

/-! ### The status of a result -/

/-- A run with unwritten files is fatal; else the rows that ask for another run decide. -/
theorem finish_status (report : RunResult) :
    ((finish report).1 = .fatalErrors ↔ report.unwritten ≠ []) ∧
    ((finish report).1 = .noErrors ↔
      report.unwritten = [] ∧ report.summary.retryCount = 0) ∧
    ((finish report).1 = .minorErrors ↔
      report.unwritten = [] ∧ report.summary.retryCount ≠ 0) := by
  rw [finish, RunResult.hasUnwritten]
  cases report.unwritten with
  | nil => by_cases hcount : report.summary.retryCount = 0 <;> simp [hcount]
  | cons fault rest => simp

section Command

variable {σ : Type} (settings : Settings) (client : WikiAccess σ) (paths : RunFiles)
  (upload : List Article → Activity σ (List RowOutcome)) (space : Workspace σ)

/-- A command does what its run does, and its status is decided by the result. -/
theorem run_runCommandWith :
    let ran := (runWith settings client paths upload).run space
    let ended := (runCommandWith settings client paths upload).run space
    ended.state = ran.state ∧ ended.value = match ran.value with
      | .ok report => (finish report).1
      | .error _ => .fatalErrors := by
  simp only [runCommandWith, Activity.run_bind, Activity.mapEvents]
  cases ((runWith settings client paths upload).run space).value <;> exact ⟨rfl, rfl⟩

end Command

/-! ### How rows end -/

/-- A call that was made for the row failed. -/
def hasFailed (outcomes : List RowOutcome) (row : Row) : Bool :=
  outcomes.any fun outcome => outcome.rowId == row.id && Tally.isFailed outcome.outcome

/-- There is a page with the title of the row, as the template renders it. -/
def HasPage (settings : Settings) (template : Template) (wiki : MemoryWiki) (row : Row) : Prop :=
  ∃ article, template.render row = .ok article ∧
    (wiki.page? ⟨settings.uploadSpace, article.title⟩).isSome

/-! ### What is written after the upload -/

section Writing

variable (paths : RunFiles) (data : DataSet) (outcomes : List RowOutcome) (tree : FileTree)

/-- The content of a ledger of the rows that failed. -/
def failedContent : Bytes := Data.ledgerBytes data (data.rows.filter (hasFailed outcomes))

/-- The ledger of the rows that failed, as it is written after the upload. -/
def writtenLedger : Except IoError Unit × FileTree :=
  writeLedger paths outcomes (failedContent data outcomes) tree

/-- The report, as it is written after the ledger. -/
def writtenReport : Except IoError Unit × FileTree :=
  let ledger := writtenLedger paths data outcomes tree
  let saved := savedResult paths outcomes ledger.1
  (ReportDocument.completed saved.summary outcomes
    (saved.unwritten.flatMap RunFault.messages)).write paths.report ledger.2

/-- The result of a run with these outcomes. -/
def resultOf : RunResult :=
  let saved := savedResult paths outcomes (writtenLedger paths data outcomes tree).1
  let report := writtenReport paths data outcomes tree
  { saved with unwritten := saved.unwritten ++ noted (.artifact paths.report) report.1 }

/-- A file is noted exactly if it was not written. -/
theorem noted_eq_nil_iff (fault : IoError → RunFault) (written : Except IoError Unit) :
    noted fault written = [] ↔ written = .ok () := by
  cases written <;> simp [noted]

/-- Nothing is noted exactly if ledger and report were written. -/
theorem unwritten_resultOf_iff :
    (resultOf paths data outcomes tree).unwritten = [] ↔
      (writtenLedger paths data outcomes tree).1 = .ok () ∧
        (writtenReport paths data outcomes tree).1 = .ok () := by
  rw [resultOf, List.append_eq_nil_iff, savedResult, noted_eq_nil_iff, noted_eq_nil_iff]

/-- Something is noted exactly if one of them was not written. -/
theorem unwritten_resultOf_ne_nil_iff :
    (resultOf paths data outcomes tree).unwritten ≠ [] ↔
      (∃ cause, (writtenLedger paths data outcomes tree).1 = .error cause) ∨
        ∃ cause, (writtenReport paths data outcomes tree).1 = .error cause := by
  rw [Ne, unwritten_resultOf_iff, not_and_or]
  cases (writtenLedger paths data outcomes tree).1 <;>
    cases (writtenReport paths data outcomes tree).1 <;> simp

variable {paths data outcomes tree}

/-- A ledger that is needed and was written is named, and it is left as it is unless the report is
written to its place. -/
theorem ledger_of_retry (hretry : (Tally.ofOutcomes outcomes).retryCount ≠ 0)
    (hwritten : (writtenLedger paths data outcomes tree).1 = .ok ()) :
    (resultOf paths data outcomes tree).summary.ledgerPath = some paths.ledger.text ∧
      (tree.writeFileWithin paths.ledger (failedContent data outcomes)).1 = .ok () ∧
      (paths.ledger.place ≠ paths.report.place →
        (writtenReport paths data outcomes tree).2.open? paths.ledger =
          .ok (.file (failedContent data outcomes))) := by
  have hany : outcomes.any (·.outcome.needsRetry) = true := by
    rw [Ne, retryCount_eq_zero_iff] at hretry
    simpa using hretry
  have hledger : writtenLedger paths data outcomes tree =
      tree.writeFileWithin paths.ledger (failedContent data outcomes) := by
    rw [writtenLedger, writeLedger, if_pos hany]
  -- Only the report is written after the ledger.
  refine ⟨?_, hledger ▸ hwritten, fun hplaces => ?_⟩
  · rw [resultOf, savedResult, hwritten, hany]
    rfl
  · have hsaved : tree.writeFileWithin paths.ledger (failedContent data outcomes) =
        (.ok (), (writtenLedger paths data outcomes tree).2) := by
      rw [← hledger, ← hwritten]
    exact FileTree.open?_of_writeFileWithin hsaved (FileTree.grows_writeFileWithin ..) hplaces

end Writing

/-! ### What a status says -/

section Statements

variable (settings : Settings) (paths : RunFiles)
  (upload : List Article → Activity MemoryWiki (List RowOutcome)) (space : Workspace MemoryWiki)

/-- The run took place with the given result: it passed every check, it has an outcome for each row,
in their order, and a report that says so stands at its place. -/
structure Recorded (template : Template) (data : DataSet) (report : RunResult)
    (after : Workspace MemoryWiki) : Prop where
  passed : ∃ articles, Passed settings MemoryWiki.client space template ⟨data, articles⟩
  value : ((runWith settings MemoryWiki.client paths upload).run space).value = .ok report
  rows : rowsOf report.outcomes = data.rows.map fun row => (row.id, (template.articleOf row).title)
  reported : after.files.open? paths.report =
    .ok (.file (ReportDocument.completed report.summary report.outcomes []).bytes)

/-- The ledger of the rows that failed was written, and the summary names it. It stands at its place
in the end, unless the report was written to that place. -/
structure Unpublished (data : DataSet) (report : RunResult) (after : Workspace MemoryWiki) :
    Prop where
  named : report.summary.ledgerPath = some paths.ledger.text
  written :
    let before := ((prepare settings MemoryWiki.client paths).run.run space).state.files
    (before.writeFileWithin paths.ledger (failedContent data report.outcomes)).1 = .ok ()
  kept : paths.ledger.place ≠ paths.report.place →
    after.files.open? paths.ledger = .ok (.file (failedContent data report.outcomes))

/-- The run was refused before any upload: its preparation ended with an error, and the wiki is as
it was, but for the call that asked for the template. -/
def Refused (after : Workspace MemoryWiki) : Prop :=
  ∃ e, ((prepare settings MemoryWiki.client paths).run.run space).value = .error e ∧
    after.wiki = { space.wiki with calls := space.wiki.calls ++ callsBefore settings e }

/-- The articles of the run were uploaded, but the ledger or the report could not be written. -/
def Unrecorded : Prop :=
  let prepared := (prepare settings MemoryWiki.client paths).run.run space
  ∃ ready, prepared.value = .ok ready ∧
    let outcomes := ((upload ready.articles).run prepared.state.wiki).value
    (∃ cause, (writtenLedger paths ready.data outcomes prepared.state.files).1 = .error cause) ∨
      ∃ cause, (writtenReport paths ready.data outcomes prepared.state.files).1 = .error cause

/-- What the status of a command says. Without errors, every row has its page, and a report of all
rows was written. With minor errors there are rows that failed, a ledger of them was written beside
the report, and every other row has its page. A fatal error says that the run was refused, or that
one of its files was not written, and is the status of every such run. -/
structure StatusSound (result : Result (Workspace MemoryWiki) ExitStatus) : Prop where
  noErrors : result.value = .noErrors → ∃ template data report,
    Recorded settings paths upload space template data report result.state ∧
    ∀ row ∈ data.rows, HasPage settings template result.state.wiki row
  minorErrors : result.value = .minorErrors → ∃ template data report,
    Recorded settings paths upload space template data report result.state ∧
    Unpublished settings paths space data report result.state ∧
    (∃ row ∈ data.rows, hasFailed report.outcomes row = true) ∧
    ∀ row ∈ data.rows, hasFailed report.outcomes row = false →
      HasPage settings template result.state.wiki row
  fatalErrors : result.value = .fatalErrors ↔
    Refused settings paths space result.state ∨ Unrecorded settings paths upload space

end Statements

/-! ### Rows of a run that nothing cancels -/

section Rows

variable (origin : MemoryWiki) (settings : Settings) (template : Template) (data : DataSet)

/-- The outcomes of the rows of a run, as they were decided before the upload. -/
def outcomesIn : List RowOutcome :=
  (data.rows.map template.articleOf).map fun article =>
    outcomeOf article (outcomeIn origin (uploadPlan settings) article)

/-- Rows that are attempted ask for another run exactly if they failed. -/
theorem asksAgain_outcomesIn (row : Row) :
    asksAgain (outcomesIn origin settings template data) row =
      hasFailed (outcomesIn origin settings template data) row := by
  have hretry : ∀ article : Article,
      (outcomeIn origin (uploadPlan settings) article).needsRetry =
        Tally.isFailed (outcomeIn origin (uploadPlan settings) article) := by
    intro article
    have hattempted := beq_false_of_ne
      (Upload.outcomeIn_ne_notAttempted origin (uploadPlan settings) article)
    rw [needsRetry_eq, hattempted, Bool.or_false]
  simp only [asksAgain, hasFailed, outcomesIn, List.any_map, Function.comp_def, outcomeOf, hretry]

/-- The outcomes stand in the order of the rows. -/
theorem rowsOf_outcomesIn : rowsOf (outcomesIn origin settings template data) =
    data.rows.map fun row => (row.id, (template.articleOf row).title) := by
  simp [outcomesIn, rowsOf, outcomeOf, Template.articleOf]

theorem map_rowId_outcomesIn :
    (outcomesIn origin settings template data).map RowOutcome.rowId = data.rows.map Row.id := by
  simp [outcomesIn, outcomeOf, Template.articleOf]

/-- The ledger is one of the rows that failed. -/
theorem ledgerBytes_outcomesIn (hids : (data.rows.map Row.id).Nodup) :
    Data.ledgerBytes data (retryRows data.rows (outcomesIn origin settings template data)) =
      failedContent data (outcomesIn origin settings template data) := by
  have halign := map_rowId_outcomesIn origin settings template data
  rw [failedContent, retryRows_eq_filter _ _ hids halign,
    funext (asksAgain_outcomesIn origin settings template data)]

/-- Some row failed exactly if the outcomes ask for another run. -/
theorem exists_hasFailed_iff :
    (∃ row ∈ data.rows, hasFailed (outcomesIn origin settings template data) row = true) ↔
      (Tally.ofOutcomes (outcomesIn origin settings template data)).retryCount ≠ 0 := by
  rw [Ne, retryCount_eq_zero_iff]
  simp only [not_forall, Bool.not_eq_false]
  constructor
  -- An outcome is about the row of its identifier, and there is such a row for each outcome.
  · rintro ⟨row, _, hfailed⟩
    rw [← asksAgain_outcomesIn, asksAgain, List.any_eq_true] at hfailed
    obtain ⟨outcome, houtcome, hasks⟩ := hfailed
    exact ⟨outcome, houtcome, (Bool.and_eq_true_iff.mp hasks).2⟩
  · rintro ⟨outcome, houtcome, hretry⟩
    have hid : outcome.rowId ∈ data.rows.map Row.id := by
      rw [← map_rowId_outcomesIn origin settings template data]
      exact List.mem_map_of_mem houtcome
    obtain ⟨row, hrow, heq⟩ := List.mem_map.mp hid
    refine ⟨row, hrow, ?_⟩
    rw [← asksAgain_outcomesIn, asksAgain, List.any_eq_true]
    exact ⟨outcome, houtcome, Bool.and_eq_true_iff.mpr ⟨beq_iff_eq.mpr heq.symm, hretry⟩⟩

variable {origin settings template data}

/-- A row that did not fail has its page after the upload. -/
theorem hasPage_of_not_failed {wiki : MemoryWiki} (haccepted : Accepted template data)
    (hcourse : ∀ article ∈ data.rows.map template.articleOf,
      OnCourse origin (uploadPlan settings) article
        (wiki.page? ((uploadPlan settings).keyOf article))
        (.done (outcomeIn origin (uploadPlan settings) article)))
    {row : Row} (hrow : row ∈ data.rows)
    (hfailed : hasFailed (outcomesIn origin settings template data) row = false) :
    HasPage settings template wiki row := by
  have harticle : template.articleOf row ∈ data.rows.map template.articleOf :=
    List.mem_map_of_mem hrow
  have hretry : (outcomeIn origin (uploadPlan settings) (template.articleOf row)).needsRetry =
      false := by
    rw [← asksAgain_outcomesIn, asksAgain, List.any_eq_false] at hfailed
    have hown := hfailed _ (List.mem_map_of_mem harticle)
    simpa [outcomeOf, Template.articleOf] using hown
  exact ⟨template.articleOf row, haccepted.rendered row hrow,
    (hcourse _ harticle).page_isSome hretry⟩

end Rows

/-! ### Whole commands -/

section Commands

variable {settings : Settings} {paths : RunFiles} {way : Way} {space : Workspace MemoryWiki}

/-- A run that is not prepared is refused. -/
theorem statusSound_of_unprepared (way : Way) {e : RunFault}
    (h : ((prepare settings MemoryWiki.client paths).run.run space).value = .error e) :
    let upload := way.upload MemoryWiki.client (uploadPlan settings)
    StatusSound settings paths upload space
      ((runCommandWith settings MemoryWiki.client paths upload).run space) := by
  intro upload
  obtain ⟨hstate, hstatus⟩ := run_runCommandWith settings MemoryWiki.client paths upload space
  have hvalue := runWith_of_unprepared h upload
  rw [hvalue] at hstatus
  have hrefused := runWith_allOrNothing settings paths space fun articles wiki =>
    way.rows_upload MemoryWiki.client (uploadPlan settings) articles wiki
  rw [AllOrNothing, hvalue] at hrefused
  constructor
  case noErrors =>
    intro hnone
    cases hstatus.symm.trans hnone
  case minorErrors =>
    intro hminor
    cases hstatus.symm.trans hminor
  case fatalErrors =>
    refine iff_of_true hstatus (.inl ⟨e, h, ?_⟩)
    rw [hstate]
    exact hrefused

/-- What becomes of a run that is prepared: its outcomes are those that were decided before the
upload, the ledger and the report are written, and rows that did not fail have their pages. -/
theorem exists_of_prepared (hway : way.Uncancelled) {ready : ReadyRun}
    (h : ((prepare settings MemoryWiki.client paths).run.run space).value = .ok ready) :
    let start := ((prepare settings MemoryWiki.client paths).run.run space).state
    let upload := way.upload MemoryWiki.client (uploadPlan settings)
    let ran := (runWith settings MemoryWiki.client paths upload).run space
    ∃ template, Passed settings MemoryWiki.client space template ready ∧
      let outcomes := outcomesIn start.wiki settings template ready.data
      ((upload ready.articles).run start.wiki).value = outcomes ∧
      ran.value = .ok (resultOf paths ready.data outcomes start.files) ∧
      ran.state.files = (writtenReport paths ready.data outcomes start.files).2 ∧
      ∀ row ∈ ready.data.rows, hasFailed outcomes row = false →
        HasPage settings template ran.state.wiki row := by
  intro start upload ran
  obtain ⟨template, page, hcleared⟩ := cleared_of_prepared h
  have hpassed := hcleared.passed
  have haccepted := hpassed.accepted
  refine ⟨template, hpassed, ?_⟩
  -- The titles are distinct, so no row undoes what another one has published.
  have htitles : (ready.articles.map Article.title).Nodup :=
    ((Batch.articles_eq_ok_iff ..).mp hpassed.articles).2.2
  obtain ⟨houtcomes, hcourse⟩ :=
    Way.run_uncancelled hway start.wiki (uploadPlan settings) htitles
  obtain ⟨hvalue, hstate⟩ := runWith_of_prepared h upload
  rw [hpassed.articles_eq] at houtcomes hcourse hvalue hstate ⊢
  intro outcomes
  have hconclude := run_conclude paths
    { start with wiki := ((upload (ready.data.rows.map template.articleOf)).run start.wiki).state }
    ready.data outcomes
  rw [ledgerBytes_outcomesIn _ _ _ _ haccepted.ids_nodup] at hconclude
  obtain ⟨hended, hresult⟩ := hconclude
  rw [houtcomes] at hvalue hstate
  have hran := hstate.trans hended
  refine ⟨houtcomes, hvalue.trans (congrArg Except.ok hresult), congrArg Workspace.files hran, ?_⟩
  intro row hrow hfailed
  rw [hran]
  exact hasPage_of_not_failed haccepted hcourse hrow hfailed

/-- A run that is prepared ends with the status of what became of it. -/
theorem statusSound_of_prepared (hway : way.Uncancelled) {ready : ReadyRun}
    (h : ((prepare settings MemoryWiki.client paths).run.run space).value = .ok ready) :
    let upload := way.upload MemoryWiki.client (uploadPlan settings)
    StatusSound settings paths upload space
      ((runCommandWith settings MemoryWiki.client paths upload).run space) := by
  intro upload
  obtain ⟨hstate, hstatus⟩ := run_runCommandWith settings MemoryWiki.client paths upload space
  obtain ⟨template, hpassed, houtcomes, hvalue, hfiles, hpages⟩ := exists_of_prepared hway h
  have hfailed := exists_hasFailed_iff
    ((prepare settings MemoryWiki.client paths).run.run space).state.wiki settings template
    ready.data
  have hrows := rowsOf_outcomesIn
    ((prepare settings MemoryWiki.client paths).run.run space).state.wiki settings template
    ready.data
  generalize outcomesIn _ settings template ready.data = outcomes at *
  have hrecorded := runWith_report hvalue
  have hwritten := unwritten_resultOf_iff paths ready.data outcomes
    ((prepare settings MemoryWiki.client paths).run.run space).state.files
  rw [hvalue] at hstatus
  dsimp only at hstatus
  obtain ⟨hfatal, hnone, hminor⟩ := finish_status (resultOf paths ready.data outcomes
    ((prepare settings MemoryWiki.client paths).run.run space).state.files)
  rw [← hstatus] at hfatal hnone hminor
  rw [← hstate] at hfiles hpages hrecorded
  constructor
  case noErrors =>
    intro hend
    obtain ⟨hunwritten, hcount⟩ := hnone.mp hend
    refine ⟨template, ready.data, _, ⟨⟨_, hpassed⟩, hvalue, hrows, hrecorded hunwritten⟩, ?_⟩
    intro row hrow
    refine hpages row hrow (Bool.eq_false_iff.mpr fun hrowFailed => ?_)
    exact hfailed.mp ⟨row, hrow, hrowFailed⟩ hcount
  case minorErrors =>
    intro hend
    obtain ⟨hunwritten, hcount⟩ := hminor.mp hend
    obtain ⟨hnamed, hsaved, hkept⟩ := ledger_of_retry hcount (hwritten.mp hunwritten).1
    refine ⟨template, ready.data, _, ⟨⟨_, hpassed⟩, hvalue, hrows, hrecorded hunwritten⟩,
      ⟨hnamed, hsaved, ?_⟩, hfailed.mpr hcount, hpages⟩
    rw [hfiles]
    exact hkept
  case fatalErrors =>
    rw [hfatal, unwritten_resultOf_ne_nil_iff]
    constructor
    · intro hfault
      refine .inr ⟨ready, h, ?_⟩
      rw [houtcomes]
      exact hfault
    -- A run that is prepared was not refused, and there is one preparation only.
    · rintro (⟨e, he, _⟩ | ⟨other, hother, hfault⟩)
      · cases h.symm.trans he
      · obtain rfl := Except.ok.inj (h.symm.trans hother)
        rw [houtcomes] at hfault
        exact hfault

end Commands

/-- The status of every command says what became of its run, whichever calls are made to fail and
whichever files cannot be written: for the upload of one article after the other, and for every
schedule of a pool that nothing cancels. -/
theorem exit_status_sound (settings : Settings) (paths : RunFiles) (space : Workspace MemoryWiki) :
    StatusSound settings paths (uploadBatch MemoryWiki.client (uploadPlan settings) none) space
      ((runCommand settings MemoryWiki.client paths).run space) ∧
    ∀ moves : List Move, .cancel ∉ moves →
      StatusSound settings paths (uploadPooled MemoryWiki.client (uploadPlan settings) moves) space
        ((runCommandWith settings MemoryWiki.client paths
          (uploadPooled MemoryWiki.client (uploadPlan settings) moves)).run space) := by
  have hsound : ∀ way : Way, way.Uncancelled →
      StatusSound settings paths (way.upload MemoryWiki.client (uploadPlan settings)) space
        ((runCommandWith settings MemoryWiki.client paths
          (way.upload MemoryWiki.client (uploadPlan settings))).run space) := by
    intro way hway
    cases h : ((prepare settings MemoryWiki.client paths).run.run space).value with
    | error e => exact statusSound_of_unprepared way h
    | ok ready => exact statusSound_of_prepared hway h
  constructor
  · rw [runCommand]
    exact hsound (.inTurn none) rfl
  · intro moves hmoves
    exact hsound (.byPool moves) hmoves

/-- The page of the second row cannot be created. The command ends with minor errors, there is no
page of that row, and the ledger holds it. A pool that takes the second row first ends like this as
well, so it was neither refused nor left a file unwritten. -/
theorem exit_status_sound_create_fails :
    let settings := sampleSettings 0x3B
    let paths := RunFiles.ofSettings settings
    let sample := sampleSpace "id;name\n1;Apple\n2;Banana\n"
    let space := { sample with wiki := sample.wiki.injectFailure "Banana" .create }
    let moves : List Move := [.start 1, .start 0, .advance 1, .advance 0, .advance 1, .advance 0]
    let ended := (runCommand settings MemoryWiki.client paths).run space
    let pooled := (runCommandWith settings MemoryWiki.client paths
      (uploadPooled MemoryWiki.client (uploadPlan settings) moves)).run space
    ended.value = .minorErrors ∧ ended.state.wiki.page? ⟨"DOCS", "Banana"⟩ = none ∧
      ended.state.files.open? "errored_articles.csv" =
        .ok (.file (Text.Utf8.encode "id;name\n2;Banana\n")) ∧
      (∃ template data report,
        Recorded settings paths (uploadBatch MemoryWiki.client (uploadPlan settings) none) space
          template data report ended.state ∧
        Unpublished settings paths space data report ended.state ∧
        (∃ row ∈ data.rows, hasFailed report.outcomes row = true) ∧
        ∀ row ∈ data.rows, hasFailed report.outcomes row = false →
          HasPage settings template ended.state.wiki row) ∧
      pooled.value = .minorErrors ∧ Move.cancel ∉ moves ∧
      ¬(Refused settings paths space pooled.state ∨ Unrecorded settings paths
        (uploadPooled MemoryWiki.client (uploadPlan settings) moves) space) := by
  intro settings paths sample space moves ended pooled
  obtain ⟨hsound, hpooled⟩ := exit_status_sound settings paths space
  have hmoves : Move.cancel ∉ moves := by
    decide
  have hended : ended.value = .minorErrors := by
    decide +kernel
  have hvalue : pooled.value = .minorErrors := by
    decide +kernel
  have hfatal : pooled.value ≠ .fatalErrors := by
    rw [hvalue]
    decide
  exact ⟨hended, by decide +kernel, by decide +kernel, hsound.minorErrors hended, hvalue, hmoves,
    mt (hpooled moves hmoves).fatalErrors.mpr hfatal⟩

end PageMerge
