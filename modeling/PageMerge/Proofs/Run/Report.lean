import PageMerge.Proofs.Run.Conclusion
import PageMerge.Proofs.Run.Dumps
import PageMerge.Proofs.Upload.Encoding

/-!
# Reports that are read

A report is a JSON document, whatever characters stand in the texts of a run, and it says what the
result of the run says. A run that took place reports its summary and its outcomes, and what kept
the ledger from being written; another run reports its error.

## Main definitions

* `SaysCompleted`, `SaysRejected`: a document says what the result of a run says
* `ReportSays`: what stands at the place of a report is such a document

## Main results

* `ReportDocument.read_bytes`: a report is read back
* `run_report_faithful`: reports of whole runs
-/

namespace PageMerge

open PageMerge.Config (Settings)
open PageMerge.Data (DataSet)
open PageMerge.Files (FileTree IoError Path)
open PageMerge.Json (Value)
open PageMerge.Upload (RowOutcome Tally)
open PageMerge.Wiki (Article MemoryWiki WikiAccess)
open Workspace

variable {σ : Type}

/-! ### What a report says -/

/-- A document says of a run that took place what its result says: the summary, the outcomes in
their order, and what kept the ledger from being written, if anything did. -/
structure SaysCompleted (report : RunResult) (document : Value) : Prop where
  status : document.member? "status" = some (.text "completed")
  summary : (document.member? "summary").bind Tally.ofJson? = some report.summary
  outcomes : (document.member? "outcomes").bind (Value.list? RowOutcome.ofJson?) =
    some report.outcomes
  unwritten : (report.unwritten = [] ∧ document.member? "errors" = none) ∨
    ∃ error, report.unwritten = [.ledger error] ∧
      (document.member? "errors").bind (Value.list? Value.text?) =
        some (RunFault.ledger error).messages

/-- A document says of a run that did not take place what its error is. -/
structure SaysRejected (fault : RunFault) (document : Value) : Prop where
  status : document.member? "status" = some (.text "rejected")
  errorId : (document.member? "error_id").bind Value.nat64? = some fault.id
  errors : (document.member? "errors").bind (Value.list? Value.text?) = some fault.messages

/-- A JSON document that says something stands in a file. -/
def ReportSays (tree : FileTree) (path : Path) (meaning : Value → Prop) : Prop :=
  ∃ content document, tree.open? path = .ok (.file content) ∧ Json.read content = .ok document ∧
    meaning document

/-! ### Documents -/

theorem fits_texts (depth : Nat) (texts : List String) :
    (Value.array (texts.map .text)).Fits (depth + 1) := by
  refine .array ?_
  rintro _ hitem
  obtain ⟨text, -, rfl⟩ := List.mem_map.mp hitem
  exact .text text

theorem list?_texts (texts : List String) :
    (Value.array (texts.map .text)).list? Value.text? = some texts := by
  have hread : ∀ text, Value.text? (.text text) = some text := fun _ => rfl
  exact Json.list?_array_map hread texts

namespace ReportDocument

theorem fits_completed {summary : Tally} (h : summary.IsMachineSized) (outcomes : List RowOutcome)
    (errors : List String) (depth : Nat) :
    (completed summary outcomes errors).toJson.Fits (depth + 5) := by
  have houtcomes : (Value.array (outcomes.map RowOutcome.toJson)).Fits (depth + 4) := by
    refine .array ?_
    rintro _ hitem
    obtain ⟨row, -, rfl⟩ := List.mem_map.mp hitem
    exact row.fits_toJson depth
  refine .object ?_
  simp only [List.cons_append, List.nil_append, List.forall_mem_cons]
  refine ⟨.text "completed", summary.fits_toJson _ h, houtcomes, ?_⟩
  rw [errorMembers]
  split
  · exact List.forall_mem_nil _
  · rw [List.forall_mem_singleton]
    exact fits_texts _ errors

theorem fits_rejected {errorId : Nat} (h : errorId < UInt64.size) (errors : List String)
    (depth : Nat) : (rejected errorId errors).toJson.Fits (depth + 2) := by
  refine .object ?_
  simp only [List.forall_mem_cons]
  exact ⟨.text "rejected", .nat h, fits_texts depth errors, List.forall_mem_nil _⟩

/-- A report is read back from its bytes. -/
theorem read_bytes {document : ReportDocument} (h : document.toJson.Fits Json.depthLimit) :
    Json.read document.bytes = .ok document.toJson :=
  Json.read_pretty h

section Completed

variable (summary : Tally) (outcomes : List RowOutcome) (errors : List String)

theorem member?_completed_status :
    (completed summary outcomes errors).toJson.member? "status" = some (.text "completed") := by
  cases errors <;> rfl

theorem member?_completed_summary :
    (completed summary outcomes errors).toJson.member? "summary" = some summary.toJson := by
  cases errors <;> rfl

theorem member?_completed_outcomes :
    (completed summary outcomes errors).toJson.member? "outcomes" =
      some (.array (outcomes.map RowOutcome.toJson)) := by
  cases errors <;> rfl

end Completed

/-- A report of a run that took place says what its result says, with no more than the ledger
unwritten. -/
theorem says_completed {report : RunResult} (hsize : report.summary.IsMachineSized)
    (hunwritten : report.unwritten = [] ∨ ∃ error, report.unwritten = [.ledger error]) :
    SaysCompleted report (completed report.summary report.outcomes
      (report.unwritten.flatMap RunFault.messages)).toJson := by
  constructor
  case status => exact member?_completed_status ..
  case summary => rw [member?_completed_summary, Option.bind_some, Tally.ofJson?_toJson hsize]
  case outcomes =>
    rw [member?_completed_outcomes, Option.bind_some,
      Json.list?_array_map RowOutcome.ofJson?_toJson]
  case unwritten =>
    rcases hunwritten with hnone | ⟨error, hledger⟩
    · rw [hnone]
      exact .inl ⟨rfl, rfl⟩
    · rw [hledger, List.flatMap_singleton]
      exact .inr ⟨error, rfl, list?_texts _⟩

theorem says_rejected {fault : RunFault} (hid : fault.id < UInt64.size) :
    SaysRejected fault (rejected fault.id fault.messages).toJson := by
  have hnumber : (rejected fault.id fault.messages).toJson.member? "error_id" =
      some (.nat fault.id) := rfl
  constructor
  case status => rfl
  case errorId => rw [hnumber, Option.bind_some, Upload.nat64?_nat hid]
  case errors => exact list?_texts fault.messages

/-- A report that could be written stands at its place and is read back. -/
theorem says_of_written {document : ReportDocument} (hfits : document.toJson.Fits Json.depthLimit)
    {meaning : Value → Prop} (hmeaning : meaning document.toJson) {path : Path}
    {tree written : FileTree} (hwritten : document.write path tree = (.ok (), written)) :
    ReportSays written path meaning :=
  ⟨document.bytes, document.toJson, FileTree.open?_written hwritten, read_bytes hfits, hmeaning⟩

end ReportDocument

/-! ### Numbers in a report -/

/-- The numbers of errors are small. -/
theorem RunFault.id_le (fault : RunFault) : fault.id ≤ 36 := by
  cases fault with
  | config problem =>
    cases problem with
    | marks cause => cases cause <;> exact Nat.le_of_ble_eq_true rfl
    | _ => exact Nat.le_of_ble_eq_true rfl
  | data problem => cases problem <;> exact Nat.le_of_ble_eq_true rfl
  | _ => exact Nat.le_of_ble_eq_true rfl

theorem RunFault.id_lt (fault : RunFault) : fault.id < UInt64.size :=
  Nat.lt_of_le_of_lt fault.id_le (by decide)

/-- Outcomes that a machine can count are counted in 64 bits. -/
theorem isMachineSized_savedResult (paths : RunFiles) {outcomes : List RowOutcome}
    (h : outcomes.length < UInt64.size) (written : Except IoError Unit) :
    (savedResult paths outcomes written).summary.IsMachineSized where
  total := h
  created := Nat.lt_of_le_of_lt List.countP_le_length h
  updated := Nat.lt_of_le_of_lt List.countP_le_length h
  skippedExisting := Nat.lt_of_le_of_lt List.countP_le_length h
  failed := Nat.lt_of_le_of_lt List.countP_le_length h
  notAttempted := Nat.lt_of_le_of_lt List.countP_le_length h

/-! ### Runs -/

section Runs

variable (paths : RunFiles) (space : Workspace σ)

/-- Nothing but the ledger is unwritten if the report could be written. -/
theorem unwritten_savedResult (outcomes : List RowOutcome) (written : Except IoError Unit) :
    (savedResult paths outcomes written).unwritten = [] ∨
      ∃ error, (savedResult paths outcomes written).unwritten = [.ledger error] := by
  cases written with
  | ok _ => exact .inl rfl
  | error cause => exact .inr ⟨_, rfl⟩

/-- What is done after the upload leaves a report that says what the result says, if it could be
written. -/
theorem conclude_says (data : DataSet) {outcomes : List RowOutcome}
    (hsize : outcomes.length < UInt64.size)
    (hwritten : ∀ cause, .artifact paths.report cause ∉
      ((conclude paths data outcomes).run space).value.unwritten) :
    let concluded := (conclude paths data outcomes).run space
    ReportSays concluded.state.files paths.report (SaysCompleted concluded.value) := by
  obtain ⟨hstate, hvalue⟩ := run_conclude paths space data outcomes
  rw [hvalue] at hwritten
  dsimp only
  rw [hvalue, hstate]
  -- The report is written last. All that it takes over from the ledger is whether it was written.
  clear hvalue hstate
  generalize writeLedger paths outcomes _ space.files = ledger at hwritten ⊢
  have hsummary := isMachineSized_savedResult paths hsize ledger.1
  have hunwritten := unwritten_savedResult paths outcomes ledger.1
  have houtcomes : (savedResult paths outcomes ledger.1).outcomes = outcomes := rfl
  generalize savedResult paths outcomes ledger.1 = saved at *
  subst houtcomes
  generalize hreported : ReportDocument.write _ paths.report ledger.2 = reported at hwritten ⊢
  obtain ⟨result, files⟩ := reported
  cases result with
  | error cause =>
    refine absurd ?_ (hwritten cause)
    exact List.mem_append_right _ (List.mem_singleton_self _)
  | ok _ =>
    rw [noted, List.append_nil]
    exact ReportDocument.says_of_written (ReportDocument.fits_completed hsummary _ _ _)
      (ReportDocument.says_completed hsummary hunwritten) hreported

/-- The report of a run that did not take place says what its error is, if it could be written. -/
theorem recordRejected_says (fault : RunFault)
    (hwritten : ((ReportDocument.rejected fault.id fault.messages).write paths.report
      space.files).1 = .ok ()) :
    ReportSays ((recordRejected paths fault).run space).state.files paths.report
      (SaysRejected fault) := by
  have hid := fault.id_lt
  have hfiles : ((recordRejected paths fault).run space).state.files =
      ((ReportDocument.rejected fault.id fault.messages).write paths.report space.files).2 := by
    simp only [recordRejected, onFiles, Activity.run_bind, Activity.onPart, Activity.run_silent]
    split <;> rfl
  rw [hfiles]
  exact ReportDocument.says_of_written (ReportDocument.fits_rejected hid _ _)
    (ReportDocument.says_rejected hid) (Prod.ext hwritten rfl)

/-- A run leaves a report that is read as what the result of the run says, if it could be written:
a run that took place as its summary, its outcomes and what kept the ledger from being written, and
another run as its error. Lists are never longer than a machine word counts. -/
theorem run_report_faithful (settings : Settings) (client : WikiAccess σ)
    (upload : List Article → Activity σ (List RowOutcome)) :
    let prepared := (prepare settings client paths).run.run space
    let ended := (runWith settings client paths upload).run space
    match ended.value with
    | .ok report => report.outcomes.length < UInt64.size →
        (∀ cause, .artifact paths.report cause ∉ report.unwritten) →
        ReportSays ended.state.files paths.report (SaysCompleted report)
    | .error fault =>
        ((ReportDocument.rejected fault.id fault.messages).write paths.report
          prepared.state.files).1 = .ok () →
        ReportSays ended.state.files paths.report (SaysRejected fault) := by
  intro prepared ended
  cases hprepared : prepared.value with
  | error fault =>
    have hvalue : ended.value = .error fault := runWith_of_unprepared hprepared upload
    have hstate : ended.state = ((recordRejected paths fault).run prepared.state).state := by
      simp only [ended, runWith, Activity.run_bind, prepared] at hprepared ⊢
      rw [hprepared]
      rfl
    rw [hvalue, hstate]
    exact recordRejected_says paths prepared.state fault
  | ok ready =>
    obtain ⟨hvalue, hstate⟩ := runWith_of_prepared hprepared upload
    rw [hvalue, hstate]
    dsimp only
    rw [outcomes_conclude]
    exact conclude_says paths _ ready.data

end Runs

/-- A title with quotes, a backslash and a control character, and a ledger that cannot be written,
stand in the report of a run; identifiers that are used twice stand in the report of another. -/
theorem run_report_faithful_escapes :
    let settings := sampleSettings 0x3B
    let paths : RunFiles := ⟨"data.csv/ledger.csv", "run_report.json", "dump"⟩
    let upload := Upload.uploadBatch MemoryWiki.client (uploadPlan settings) (some 1)
    let started := sampleSpace "id;name\n1;\"A \"\"quoted\"\" \\\u0001\"\n2;Ähre\n"
    let refused := sampleSpace "id;name\n1;Apple\n1;Banana\n"
    let report : RunResult :=
      ⟨[⟨"1", "A \"quoted\" \\\u0001", .created⟩, ⟨"2", "Ähre", .notAttempted⟩],
        ⟨2, 1, 0, 0, 0, 1, none⟩, [.ledger ⟨"data.csv/ledger.csv", .alreadyExists⟩]⟩
    let fault : RunFault := .data (.duplicateIds [⟨"1", [2, 3]⟩])
    ReportSays ((runWith settings MemoryWiki.client paths upload).run started).state.files
        paths.report (SaysCompleted report) ∧
      ReportSays ((runWith settings MemoryWiki.client paths upload).run refused).state.files
        paths.report (SaysRejected fault) := by
  intro settings paths upload started refused report fault
  have hcompleted := run_report_faithful paths started settings MemoryWiki.client upload
  have hrejected := run_report_faithful paths refused settings MemoryWiki.client upload
  have hreport : ((runWith settings MemoryWiki.client paths upload).run started).value =
      .ok report := by
    decide +kernel
  have hfault : ((runWith settings MemoryWiki.client paths upload).run refused).value =
      .error fault := by
    decide +kernel
  have hwritten : ((ReportDocument.rejected fault.id fault.messages).write paths.report
      ((prepare settings MemoryWiki.client paths).run.run refused).state.files).1 = .ok () := by
    decide +kernel
  simp only [hreport] at hcompleted
  simp only [hfault] at hrejected
  refine ⟨hcompleted (by decide) ?_, hrejected hwritten⟩
  intro cause hmem
  cases List.mem_singleton.mp hmem

end PageMerge
