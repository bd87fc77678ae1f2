import PageMerge.Proofs.Files.Names
import PageMerge.Proofs.Job.Whole
import PageMerge.Proofs.Run.Account

/-!
# What the status of a job says

The status with which a job stops tells what it did. A job is rejected only if it left every page of
the wiki as it was. It is completed exactly if its run took place and all its files were written,
and then its report says the same. In every other case it has failed, and above all if articles were
uploaded and the results could not be recorded.

## Main definitions

* `memorySetting`: jobs with a wiki in memory, or with no way to it
* `Executed`: what the run of a job leads to
* `Ends`: how a job can end
* `Truthful`: what the status of a job says

## Main results

* `ends_wholeJob`: a job ends in one of these ways
* `Ends.truthful`: its status says so
* `job_status_truthful`: jobs in one go and jobs step by step
-/

namespace PageMerge

open PageMerge.Files (IsName)

/-- Ledger and report of a job stand next to each other. -/
theorem RunFiles.ofJob_ne (base : Files.Path) (job : String) :
    (ofJob base job).ledger.place ≠ (ofJob base job).report.place := by
  have hplace : ∀ name : String, '/' ∉ name.toList → IsName name →
      ((base.join job).join name).place = (base.join job).place ++ [name] := by
    intro name hslash hname
    rw [Files.Path.place_join _ hslash, Files.follow_singleton hname]
  have hledger := hplace "errored_articles.csv" (by decide) (by decide)
  have hreport := hplace "run_report.json" (by decide) (by decide)
  intro heq
  have hnames := hledger.symm.trans (heq.trans hreport)
  rw [List.append_cancel_left_eq] at hnames
  exact absurd hnames (by decide)

end PageMerge

namespace PageMerge.Job

open PageMerge.Config (Account Settings)
open PageMerge.Data (Row)
open PageMerge.Files (Path)
open PageMerge.Upload (RowOutcome Way)
open PageMerge.Wiki (CallError MemoryWiki WikiAccess)

variable {σ : Type}

/-! ### How a job ends -/

section Ends

variable (setting : JobSetting σ) (id : String) (data : Option Path) (way : Way)
  (space : Workspace σ)

/-- The run of a job with its settings. -/
def jobRun (settings : Settings) (client : WikiAccess σ) :
    Result (Workspace σ) (Except RunFault RunResult) :=
  (runWith settings client (.ofJob setting.artifacts id)
    (way.upload client (uploadPlan settings))).run space

/-- Where the program stops in the run of a job. -/
def jobStop? (settings : Settings) (client : WikiAccess σ) : Option (Stop (Workspace σ)) :=
  (runWith settings client (.ofJob setting.artifacts id)
    (way.upload client (uploadPlan settings))).stop? space

/-- The run of a job was started with settings that were accepted, and leads to a result. -/
def Executed (result : Except RunFault RunResult) : Prop :=
  ∃ settings client, Config.load space.files setting.config setting.account data = .ok settings ∧
    setting.client settings = .ok client ∧ (jobRun setting id way space settings client).value =
      result

/-- How a job can end: its status, and what it leaves. -/
inductive Ends : Status → Workspace σ → Prop
  /-- The program stops at the configuration. -/
  | aborted (h : Config.load space.files setting.config setting.account data = .error .aborted) :
    Ends (.ofStop setting id Config.Failure.abortMessage) space
  /-- The configuration is refused. -/
  | refused {error : Config.ConfigProblem}
      (h : Config.load space.files setting.config setting.account data =
        .error (.refused error)) :
    Ends (.ofError (.config error)) space
  /-- There is no way to the wiki. -/
  | unreachable {settings : Settings} {error : CallError}
      (hsettings : Config.load space.files setting.config setting.account data = .ok settings)
      (hclient : setting.client settings = .error error) :
    Ends (.ofError (.templateDownload settings.templateId error)) space
  /-- The program stops in the middle of the run. -/
  | interrupted {settings : Settings} {client : WikiAccess σ} {stop : Stop (Workspace σ)}
      (hsettings : Config.load space.files setting.config setting.account data = .ok settings)
      (hclient : setting.client settings = .ok client)
      (hstop : jobStop? setting id way space settings client = some stop) :
    Ends (.ofStop setting id stop.message) stop.state
  /-- The run does not take place. -/
  | stopped {settings : Settings} {client : WikiAccess σ} {error : RunFault}
      (hsettings : Config.load space.files setting.config setting.account data = .ok settings)
      (hclient : setting.client settings = .ok client)
      (hgoing : jobStop? setting id way space settings client = none)
      (hrun : (jobRun setting id way space settings client).value = .error error) :
    Ends (.ofError error) (jobRun setting id way space settings client).state
  /-- The articles are uploaded. -/
  | uploaded {settings : Settings} {client : WikiAccess σ} {report : RunResult}
      (hsettings : Config.load space.files setting.config setting.account data = .ok settings)
      (hclient : setting.client settings = .ok client)
      (hgoing : jobStop? setting id way space settings client = none)
      (hrun : (jobRun setting id way space settings client).value = .ok report) :
    Ends (settle id report).1 (jobRun setting id way space settings client).state

/-- A job ends in one of these ways. -/
theorem ends_wholeJob :
    let ended := (wholeJob setting id data way).run space
    Ends setting id data way space ended.value ended.state := by
  simp only [wholeJob, Activity.state, Activity.log, Activity.run_bind, Activity.run_report,
    Activity.run_silent]
  cases hsettings : Config.load space.files setting.config setting.account data with
  | error failure =>
    cases failure with
    | aborted => exact .aborted hsettings
    | refused error => exact .refused hsettings
  | ok settings =>
    cases hclient : setting.client settings with
    | error error =>
      simp only [hclient]
      exact .unreachable hsettings hclient
    | ok client =>
      simp only [hclient, runJob, Activity.run_bind]
      cases hstop : jobStop? setting id way space settings client with
      | some stop =>
        rw [Activity.run_caught_of_some hstop]
        exact .interrupted hsettings hclient hstop
      | none =>
        rw [Activity.run_caught_of_none hstop]
        cases hrun : (jobRun setting id way space settings client).value with
        | error error =>
          have hend := Ends.stopped hsettings hclient hstop hrun
          rw [jobRun] at hrun
          simp only [hrun]
          exact hend
        | ok report =>
          have hend := Ends.uploaded hsettings hclient hstop hrun
          rw [jobRun] at hrun
          simp only [hrun]
          exact hend

end Ends

/-! ### What statuses say -/

/-- An error that is no refusal fails a job. -/
theorem ofError_of_not_refusal {error : RunFault} (h : error.isRefusal = false) :
    Status.ofError error = .failed error.message := by
  rw [Status.ofError, h]
  rfl

/-- An error never completes a job. -/
theorem ofError_cases (error : RunFault) :
    (∃ messages, Status.ofError error = .rejected messages) ∨
      ∃ message, Status.ofError error = .failed message := by
  rw [Status.ofError]
  split
  · exact .inl ⟨_, rfl⟩
  · exact .inr ⟨_, rfl⟩

/-- Jobs with a wiki in memory, unless there is no way to it. -/
def memorySetting (config : Path) (account : Account) (artifacts : Path)
    (barred : Settings → Option CallError) (taskError : String → String → String) :
    JobSetting MemoryWiki where
  config := config
  account := account
  artifacts := artifacts
  client settings := match barred settings with
    | some error => .error error
    | none => .ok MemoryWiki.client
  taskError := taskError

/-- The status with which a job stops tells what it did. -/
structure Truthful (setting : JobSetting MemoryWiki) (id : String) (data : Option Path)
    (way : Way) (space : Workspace MemoryWiki) (status : Status) (after : Workspace MemoryWiki) :
    Prop where
  /-- The job was rejected, completed, or has failed. -/
  kinds : (∃ messages, status = .rejected messages) ∨ (∃ summary, status = .completed summary) ∨
    ∃ message, status = .failed message
  /-- A job that is rejected leaves every page as it was, and makes none. -/
  rejected : ∀ messages, status = .rejected messages → after.wiki.pages = space.wiki.pages
  completed_iff : ∀ summary, status = .completed summary ↔
    ∃ report, Executed setting id data way space (.ok report) ∧ report.unwritten = [] ∧
      report.summary = summary
  /-- The report of a job that is completed has the same summary, which counts every row. -/
  completed : ∀ summary, status = .completed summary → ∃ settings table outcomes,
    Config.load space.files setting.config setting.account data = .ok settings ∧
    (Data.loadFile space.files settings.dataCsv settings.delimiter settings.idColumnHeader).1 =
      .ok table ∧
    outcomes.map RowOutcome.rowId = table.rows.map Row.id ∧
    Counted summary outcomes table.rows.length ∧
    after.files.open? (RunFiles.ofJob setting.artifacts id).report =
      .ok (.file (ReportDocument.completed summary outcomes []).bytes)
  /-- A job whose results could not be recorded has failed, whatever it has uploaded. -/
  unrecorded : ∀ report, Executed setting id data way space (.ok report) →
    report.unwritten ≠ [] → ∃ message, status = .failed message

section Truth

variable {config artifacts : Path} {account : Account} {barred : Settings → Option CallError}
  {taskError : String → String → String} {id : String} {data : Option Path} {way : Way}
  {space after : Workspace MemoryWiki} {status : Status}

/-- A job whose articles are not uploaded. -/
theorem truthful_of_not_executed {setting : JobSetting MemoryWiki}
    (hstatus : (∃ messages, status = .rejected messages) ∨ ∃ message, status = .failed message)
    (hpages : after.wiki.pages = space.wiki.pages)
    (hnone : ∀ report, ¬Executed setting id data way space (.ok report)) :
    Truthful setting id data way space status after := by
  have hcompleted : ∀ summary, status ≠ .completed summary := by
    rintro summary rfl
    rcases hstatus with ⟨_, h⟩ | ⟨_, h⟩ <;> cases h
  constructor
  case kinds => exact hstatus.imp_right .inr
  case rejected => exact fun _ _ => hpages
  case completed_iff =>
    refine fun summary => iff_of_false (hcompleted summary) ?_
    rintro ⟨report, hexecuted, _⟩
    exact hnone report hexecuted
  case completed => exact fun summary h => absurd h (hcompleted summary)
  case unrecorded => exact fun report hexecuted => absurd hexecuted (hnone report)

/-- A job whose articles are uploaded. -/
theorem truthful_of_executed {setting : JobSetting MemoryWiki} {settings : Settings}
    {client : WikiAccess MemoryWiki} {report : RunResult}
    (hsettings : Config.load space.files setting.config setting.account data = .ok settings)
    (hclient : setting.client settings = .ok client)
    (hrun : (jobRun setting id way space settings client).value = .ok report) :
    Truthful setting id data way space (settle id report).1
      (jobRun setting id way space settings client).state := by
  -- Settings, client and run are determined by the job, and so is the report.
  have hunique : ∀ other, Executed setting id data way space (.ok other) → other = report := by
    rintro other ⟨settings', client', hsettings', hclient', hother⟩
    obtain rfl := Except.ok.inj (hsettings'.symm.trans hsettings)
    obtain rfl := Except.ok.inj (hclient'.symm.trans hclient)
    exact Except.ok.inj (hother.symm.trans hrun)
  have hexecuted : Executed setting id data way space (.ok report) :=
    ⟨settings, client, hsettings, hclient, hrun⟩
  obtain ⟨table, haccounts⟩ := runWith_accounts (RunFiles.ofJob_ne setting.artifacts id)
    (way.rows_upload client (uploadPlan settings)) hrun
  cases hunwritten : report.unwritten with
  | nil =>
    have hsettle : (settle id report).1 = .completed report.summary := by
      rw [settle, hunwritten]
    rw [hsettle]
    constructor
    case kinds => exact .inr (.inl ⟨_, rfl⟩)
    case rejected =>
      intro messages h
      cases h
    case completed_iff =>
      intro summary
      constructor
      · intro h
        exact ⟨report, hexecuted, hunwritten, Status.completed.inj h⟩
      · rintro ⟨other, hother, -, rfl⟩
        rw [hunique other hother]
    case completed =>
      intro summary h
      obtain rfl := Status.completed.inj h
      exact ⟨settings, table, report.outcomes, hsettings, haccounts.loaded, haccounts.aligned,
        haccounts.concluded.counted, runWith_report hrun hunwritten⟩
    case unrecorded =>
      intro other hother hmissing
      rw [hunique other hother] at hmissing
      exact absurd hunwritten hmissing
  | cons first others =>
    -- What could not be written is no refusal, and so the job has failed.
    have hfirst : first.isRefusal = false := by
      apply haccounts.concluded.isRefusal_of_mem
      rw [hunwritten]
      exact List.mem_cons_self ..
    have hsettle : (settle id report).1 = .failed first.message := by
      rw [settle, hunwritten]
      exact ofError_of_not_refusal hfirst
    rw [hsettle]
    constructor
    case kinds => exact .inr (.inr ⟨_, rfl⟩)
    case rejected =>
      intro messages h
      cases h
    case completed_iff =>
      refine fun summary => iff_of_false (by rintro ⟨⟩) ?_
      rintro ⟨other, hother, hnone, -⟩
      rw [hunique other hother, hunwritten] at hnone
      cases hnone
    case completed =>
      intro summary h
      cases h
    case unrecorded => exact fun _ _ _ => ⟨_, rfl⟩

theorem client_eq_of_memorySetting {settings : Settings} {client : WikiAccess MemoryWiki}
    (h : (memorySetting config account artifacts barred taskError).client settings = .ok client) :
    client = MemoryWiki.client := by
  dsimp only [memorySetting] at h
  split at h
  · cases h
  · exact (Except.ok.inj h).symm

/-- The program does not stop in the run of a job with a wiki in memory. -/
theorem jobStop?_memory (setting : JobSetting MemoryWiki) (id : String) (way : Way)
    (space : Workspace MemoryWiki) (settings : Settings) :
    jobStop? setting id way space settings MemoryWiki.client = none :=
  steady_runWith (MemoryWiki.steady_client.fetchTemplate _)
    (way.steady_upload MemoryWiki.steady_client _) space

/-- However a job ends, its status tells what it did. -/
theorem Ends.truthful
    (h : Ends (memorySetting config account artifacts barred taskError) id data way space status
      after) :
    Truthful (memorySetting config account artifacts barred taskError) id data way space status
      after := by
  cases h with
  | aborted hload =>
    refine truthful_of_not_executed (.inr ⟨_, rfl⟩) rfl ?_
    rintro report ⟨_, _, hsettings, _⟩
    rw [hload] at hsettings
    cases hsettings
  | refused hload =>
    refine truthful_of_not_executed (ofError_cases _) rfl ?_
    rintro report ⟨_, _, hsettings, _⟩
    rw [hload] at hsettings
    cases hsettings
  | unreachable hsettings hclient =>
    refine truthful_of_not_executed (ofError_cases _) rfl ?_
    rintro report ⟨_, _, hsettings', hclient', _⟩
    obtain rfl := Except.ok.inj (hsettings.symm.trans hsettings')
    rw [hclient] at hclient'
    cases hclient'
  | interrupted hsettings hclient hstop =>
    obtain rfl := client_eq_of_memorySetting hclient
    rw [jobStop?_memory] at hstop
    cases hstop
  | @stopped settings client error hsettings hclient _ hrun =>
    obtain rfl := client_eq_of_memorySetting hclient
    have hpages := (runWith_allOrNothing settings (.ofJob artifacts id) space
      (way.rows_upload MemoryWiki.client (uploadPlan settings))).pages hrun
    refine truthful_of_not_executed (ofError_cases _) hpages ?_
    rintro report ⟨_, _, hsettings', hclient', hrun'⟩
    obtain rfl := Except.ok.inj (hsettings.symm.trans hsettings')
    obtain rfl := Except.ok.inj (hclient.symm.trans hclient')
    rw [hrun] at hrun'
    cases hrun'
  | uploaded hsettings hclient _ hrun => exact truthful_of_executed hsettings hclient hrun

end Truth

/-- The status of every job tells what it did, whether it is done in one go, in any way to upload
its articles, or step by step, whenever it is cancelled. Jobs step by step come to an end. -/
theorem job_status_truthful (config : Path) (account : Account) (artifacts : Path)
    (barred : Settings → Option CallError) (taskError : String → String → String) (id : String)
    (data : Option Path) (space : Workspace MemoryWiki) :
    let setting := memorySetting config account artifacts barred taskError
    let steps (flags : List Bool) := (Phase.stepAll setting id flags (.created data)).run space
    (∀ way : Way,
      let ended := (wholeJob setting id data way).run space
      Truthful setting id data way space ended.value ended.state) ∧
    (∃ count, ∀ flags : List Bool, count ≤ flags.length →
      ∃ status, (steps flags).value = .ended status) ∧
    ∀ (flags : List Bool) (status : Status), (steps flags).value = .ended status →
      ∃ cancel, Truthful setting id data (.inTurn cancel) space status (steps flags).state := by
  intro setting steps
  refine ⟨?_, exists_stepAll_ended setting id data space, ?_⟩
  · exact fun way => (ends_wholeJob setting id data way space).truthful
  -- Step by step, a job does what it does in one go if it is cancelled at the same point.
  · intro flags status hended
    obtain ⟨cancel, hsteps⟩ := wholeJob_of_stepAll setting id hended
    rw [Activity.run_map] at hsteps
    have htruthful := (ends_wholeJob setting id data (.inTurn cancel) space).truthful
    have hvalue : (steps flags).value = .ended _ := congrArg Result.value hsteps
    have hstate : (steps flags).state = _ := congrArg Result.state hsteps
    obtain rfl := Phase.ended.inj (hended.symm.trans hvalue)
    refine ⟨cancel, ?_⟩
    rw [hstate]
    exact htruthful

end PageMerge.Job
