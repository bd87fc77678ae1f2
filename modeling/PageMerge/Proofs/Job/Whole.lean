import PageMerge.Job.Merge
import PageMerge.Proofs.Run.Steady

/-!
# Jobs in one go

A job is cut into steps so that other things can happen between them. A job whose steps follow each
other does what a whole run does with its configuration, and its status is decided by what the run
leads to, also if the program stops in the middle of it.

## Main definitions

* `Phase.Follows`: where a job can stand after a step
* `wholeJob`: a job in one go
* `Phase.stepAll`: the steps of a job, each given whether the job was cancelled

## Main results

* `guarded_bind`: a stop in the first or in the second part of a job
* `Phase.steady_stepAll`: the steps of a job never stop the program
* `Phase.follows_step`: a step of a job that has not stopped
* `exists_stepAll_ended`: every job comes to an end
* `run_stepAll_betweenRows`: the steps of an upload are an upload that is cancelled at some point
* `wholeJob_of_stepAll`: the steps of a job that has ended are a job in one go
-/

namespace PageMerge.Job

open PageMerge.Config (Settings)
open PageMerge.Files (Path)
open PageMerge.Upload (CancelAfter Way isCancelled uploadFrom)
open PageMerge.Wiki (WikiAccess)
open Workspace

variable {σ α : Type}

/-! ### Guarded parts -/

section Guarded

variable (setting : JobSetting σ) (id : String)

/-- What a part of a job leads to, or the end of the job if the program stops in it. -/
theorem run_guarded_cases (act : Activity (Workspace σ) (Phase σ)) (space : Workspace σ) :
    (guarded setting id act).run space = act.run space ∨ ∃ stop, act.stop? space = some stop ∧
      (guarded setting id act).run space =
        ⟨.ended (.ofStop setting id stop.message), stop.state, stop.events⟩ := by
  rw [guarded, Activity.run_bind]
  cases hstop : act.stop? space with
  | none =>
    left
    rw [Activity.run_caught_of_none hstop]
    simp only [Activity.run_pure, List.append_nil]
  | some stop =>
    right
    refine ⟨stop, rfl, ?_⟩
    rw [Activity.run_caught_of_some hstop]
    simp only [Activity.run_pure, List.append_nil]

/-- A stop in a part of a job goes no further than the job. -/
theorem steady_guarded (act : Activity (Workspace σ) (Phase σ)) :
    (guarded setting id act).Steady :=
  (Activity.steady_caught act).bind fun result => by cases result <;> exact Activity.steady_pure _

/-- A stop in the first of two parts of a job takes the place of the second one. -/
theorem guarded_bind (act : Activity (Workspace σ) α)
    (next : α → Activity (Workspace σ) (Phase σ)) :
    guarded setting id (act >>= next) = act.caught >>= fun
      | .ok a => guarded setting id (next a)
      | .error message => pure (.ended (.ofStop setting id message)) := by
  rw [guarded, Activity.caught_bind, bind_assoc]
  congr 1
  funext first
  cases first with
  | ok a => rfl
  | error message => rfl

theorem guarded_steady_bind {act : Activity (Workspace σ) α} (h : act.Steady)
    (next : α → Activity (Workspace σ) (Phase σ)) :
    guarded setting id (act >>= next) = act >>= fun a => guarded setting id (next a) := by
  simp only [guarded_bind, h.caught_eq, bind_assoc, pure_bind]

theorem guarded_of_steady {act : Activity (Workspace σ) (Phase σ)} (h : act.Steady) :
    guarded setting id act = act := by
  simp only [guarded, h.caught_eq, bind_assoc, pure_bind, bind_pure]

end Guarded

/-! ### Single steps -/

theorem hasStopped_ofError (error : RunFault) : (Status.ofError error).hasStopped = true := by
  rw [Status.ofError]
  split <;> rfl

theorem hasStopped_settle (id : String) (report : RunResult) :
    (settle id report).1.hasStopped = true := by
  rw [settle]
  split
  · rfl
  · exact hasStopped_ofError _

/-- Where a job can stand after a step: it has stopped, or it is uploading articles. -/
inductive Phase.Follows : Phase σ → Prop
  | ended {status : Status} (h : status.hasStopped = true) : Follows (.ended status)
  | betweenRows (run : OpenRun σ) : Follows (.betweenRows run)
  | inRow (run : OpenRun σ) (article : Wiki.Article) : Follows (.inRow run article)

section Follows

variable (setting : JobSetting σ) (id : String) (space : Workspace σ)

theorem value_stopWith (error : RunFault) :
    ((stopWith id error).run space).value = .ended (.ofError error) := by
  simp only [stopWith, Activity.run_bind, Activity.run_pure]

theorem follows_finishJob (run : OpenRun σ) : ((finishJob id run).run space).value.Follows := by
  simp only [finishJob, Activity.run_bind, Activity.run_pure]
  exact .ended (hasStopped_settle _ _)

theorem follows_begin (data : Option Path) : ((begin setting id data).run space).value.Follows := by
  simp only [begin, Activity.state, Activity.log, Activity.run_bind, Activity.run_report,
    Activity.run_silent]
  split
  · exact .ended rfl
  · rw [value_stopWith]
    exact .ended (hasStopped_ofError _)
  · split
    · rw [value_stopWith]
      exact .ended (hasStopped_ofError _)
    · simp only [prepareJob, Activity.run_bind]
      split
      · exact .betweenRows _
      · simp only [Activity.run_bind, value_stopWith]
        exact .ended (hasStopped_ofError _)

/-- What is done in a step of a job that has not stopped. -/
theorem Phase.follows_work (cancelled : Bool) {phase : Phase σ} (hgoing : phase.status? = none) :
    ((phase.work setting id cancelled).run space).value.Follows := by
  cases phase with
  | created data => exact follows_begin setting id space data
  | betweenRows run =>
    rw [work]
    split
    · exact follows_finishJob id space run
    · split
      · exact follows_finishJob id space run.abandon
      · exact .inRow _ _
  | inRow run article =>
    rw [work, Activity.run_bind]
    exact .betweenRows _
  | ended status => cases hgoing

/-- A step of a job that has not stopped. -/
theorem Phase.follows_step (cancelled : Bool) {phase : Phase σ} (hgoing : phase.status? = none) :
    ((phase.step setting id cancelled).run space).value.Follows := by
  rw [step]
  rcases run_guarded_cases setting id (phase.work setting id cancelled) space with
    hrun | ⟨stop, -, hrun⟩
  · rw [hrun]
    exact follows_work setting id space cancelled hgoing
  · rw [hrun]
    exact .ended rfl

/-- A job that has ended stays as it is. -/
theorem Phase.step_ended (cancelled : Bool) (status : Status) :
    (Phase.ended status : Phase σ).step setting id cancelled = pure (.ended status) :=
  guarded_of_steady setting id (Activity.steady_pure _)

/-- A job that has stopped stays as it is. -/
theorem Phase.run_step_of_ended (cancelled : Bool) {phase : Phase σ} {status : Status}
    (h : phase.status? = some status) :
    (phase.step setting id cancelled).run space = ⟨phase, space, []⟩ := by
  cases phase with
  | ended => rw [step_ended, Activity.run_pure]
  | _ => cases h

/-- A job is started once. -/
theorem Phase.step_ne_created (cancelled : Bool) (phase : Phase σ) (data : Option Path) :
    ((phase.step setting id cancelled).run space).value ≠ .created data := by
  intro hnext
  cases hphase : phase.status? with
  | none =>
    have hfollows := Phase.follows_step setting id space cancelled hphase
    rw [hnext] at hfollows
    cases hfollows
  | some status =>
    rw [run_step_of_ended setting id space cancelled hphase] at hnext
    obtain rfl : phase = .created data := hnext
    cases hphase

end Follows

/-! ### Whole jobs -/

/-- An error stops a job, and decides about its status. -/
def halt (id : String) (error : RunFault) : Activity (Workspace σ) Status := do
  Activity.log (Log.error s!"Merge job {id} stopped:")
  Activity.logAll error.entries
  pure (.ofError error)

/-- The whole run of a job. -/
def runJob (setting : JobSetting σ) (id : String) (settings : Settings) (client : WikiAccess σ)
    (way : Way) : Activity (Workspace σ) Status := do
  let run := runWith settings client (.ofJob setting.artifacts id)
    (way.upload client (uploadPlan settings))
  match ← run.caught with
  | .error message => pure (.ofStop setting id message)
  | .ok (.error error) => halt id error
  | .ok (.ok report) => do
    Activity.logAll (settle id report).2
    pure (settle id report).1

/-- A job in one go. -/
def wholeJob (setting : JobSetting σ) (id : String) (data : Option Path) (way : Way) :
    Activity (Workspace σ) Status := do
  Activity.report (.progress 0 0)
  Activity.log (Log.info s!"Starting merge job {id}")
  let space ← Activity.state
  match Config.load space.files setting.config setting.account data with
  | .error .aborted => pure (.ofStop setting id Config.Failure.abortMessage)
  | .error (.refused error) => halt id (.config error)
  | .ok settings =>
    match setting.client settings with
    | .error error => halt id (.templateDownload settings.templateId error)
    | .ok client => runJob setting id settings client way

/-! ### Steps -/

/-- The steps of a job, each given whether the job was cancelled by then. -/
def Phase.stepAll (setting : JobSetting σ) (id : String) : List Bool → Phase σ →
    Activity (Workspace σ) (Phase σ)
  | [], phase => pure phase
  | cancelled :: flags, phase => do
    let next ← phase.step setting id cancelled
    stepAll setting id flags next

section Steps

variable (setting : JobSetting σ) (id : String)

/-- The steps of a job never stop the program, whatever the wiki does. -/
theorem Phase.steady_stepAll (flags : List Bool) (phase : Phase σ) :
    (stepAll setting id flags phase).Steady := by
  induction flags generalizing phase with
  | nil => exact Activity.steady_pure _
  | cons cancelled flags ih => exact (steady_guarded setting id _).bind ih

theorem stepAll_ended (flags : List Bool) (status : Status) :
    Phase.stepAll setting id flags (.ended status) =
      (pure (.ended status) : Activity (Workspace σ) (Phase σ)) := by
  induction flags with
  | nil => rfl
  | cons cancelled flags ih => rw [Phase.stepAll, Phase.step_ended, pure_bind, ih]

/-- After the preparation there are as many steps left as the phase says, and every step is one of
them. -/
theorem Phase.remaining_step (cancelled : Bool) {phase : Phase σ}
    (hstarted : ∀ data, phase ≠ .created data) (space : Workspace σ) :
    ((phase.step setting id cancelled).run space).value.remaining ≤ phase.remaining - 1 := by
  rw [step]
  rcases run_guarded_cases setting id (phase.work setting id cancelled) space with
    hrun | ⟨stop, -, hrun⟩
  case inr =>
    rw [hrun]
    exact Nat.zero_le _
  rw [hrun]
  cases phase with
  | created data => exact absurd rfl (hstarted data)
  | betweenRows run =>
    rw [work]
    split
    · simp [finishJob, remaining]
    · rename_i article rest hrest
      split
      · simp [finishJob, remaining]
      · simp only [Activity.run_pure, remaining, hrest, List.length_cons]
        omega
  | inRow run article => simp [work, finishRow, remaining]
  | ended status => simp [work, remaining]

/-- A job without steps has ended. -/
theorem Phase.ended_of_remaining {phase : Phase σ} (h : phase.remaining = 0) :
    ∃ status, phase = .ended status := by
  cases phase with
  | ended status => exact ⟨status, rfl⟩
  | _ => cases h

/-- A job that was started has ended after as many steps as are left. -/
theorem exists_stepAll_ended_of_started {flags : List Bool} {phase : Phase σ}
    (hstarted : ∀ data, phase ≠ .created data) (hflags : phase.remaining ≤ flags.length)
    (space : Workspace σ) :
    ∃ status, ((Phase.stepAll setting id flags phase).run space).value = .ended status := by
  induction flags generalizing phase space with
  | nil => exact Phase.ended_of_remaining (Nat.le_zero.mp hflags)
  | cons cancelled flags ih =>
    rw [Phase.stepAll, Activity.run_bind]
    refine ih (Phase.step_ne_created setting id space cancelled phase) ?_ _
    have hstep := Phase.remaining_step setting id cancelled hstarted space
    rw [List.length_cons] at hflags
    omega

/-- Every job comes to an end, whenever it is cancelled. -/
theorem exists_stepAll_ended (data : Option Path) (space : Workspace σ) :
    ∃ count, ∀ flags : List Bool, count ≤ flags.length →
      ∃ status, ((Phase.stepAll setting id flags (.created data)).run space).value =
        .ended status := by
  -- How many articles there are is known after the first step.
  let first := (guarded setting id (begin setting id data)).run space
  refine ⟨first.value.remaining + 1, ?_⟩
  intro flags hflags
  cases flags with
  | nil => cases hflags
  | cons cancelled flags =>
    rw [Phase.stepAll, Activity.run_bind]
    exact exists_stepAll_ended_of_started setting id
      (Phase.step_ne_created setting id space cancelled (.created data))
      (Nat.le_of_succ_le_succ hflags) first.state

theorem steady_finishJob (run : OpenRun σ) : (finishJob id run).Steady :=
  (steady_conclude _ _ _).bind fun _ => (Activity.steady_logAll _).bind fun _ =>
    Activity.steady_pure _

/-- What is done after the upload ends a job, and nothing follows. -/
theorem finishJob_stepAll (run : OpenRun σ) (flags : List Bool) :
    guarded setting id (finishJob id run) >>= Phase.stepAll setting id flags =
      finishJob id run := by
  rw [guarded_of_steady setting id (steady_finishJob id run)]
  simp only [finishJob, bind_assoc, pure_bind, stepAll_ended]

/-! ### The steps of an upload -/

/-- The rest of an upload, and what is done after it. -/
def finishUpload (id : String) (cancel : CancelAfter) (run : OpenRun σ) :
    Activity (Workspace σ) (Phase σ) := do
  let rows ← onWiki
    (uploadFrom run.client run.plan cancel run.total run.outcomes.length run.rest)
  finishJob id { run with outcomes := run.outcomes ++ rows, rest := [] }

section FinishUpload

variable {cancel : CancelAfter} {run : OpenRun σ}

theorem finishUpload_of_done (h : run.rest = []) :
    finishUpload id cancel run = finishJob id run := by
  obtain ⟨client, plan, paths, data, total, outcomes, rest⟩ := run
  obtain rfl : rest = [] := h
  rw [finishUpload, uploadFrom, onWiki_pure, pure_bind, List.append_nil]

/-- The rows that are not started are given up. -/
theorem finishUpload_of_cancelled (h : isCancelled cancel run.outcomes.length = true) :
    finishUpload id cancel run = finishJob id run.abandon := by
  have hrows : uploadFrom run.client run.plan cancel run.total run.outcomes.length run.rest =
      pure (run.rest.map fun article => Upload.outcomeOf article .notAttempted) := by
    cases run.rest with
    | nil => rfl
    | cons article rest => rw [uploadFrom, if_pos h]
  rw [finishUpload, hrows, onWiki_pure, pure_bind, OpenRun.abandon]

/-- A row that is started is finished before the rest. -/
theorem finishUpload_of_started {article : Wiki.Article} {rest : List Wiki.Article}
    (hrest : run.rest = article :: rest)
    (h : isCancelled cancel run.outcomes.length = false) :
    finishUpload id cancel run =
      finishRow { run with rest } article >>= finishUpload id cancel := by
  obtain ⟨client, plan, paths, data, total, outcomes, rest⟩ := run
  obtain rfl : rest = article :: _ := hrest
  simp only [finishUpload, finishRow, uploadFrom, h, Bool.false_eq_true, if_false, onWiki_bind,
    onWiki_pure, bind_assoc, pure_bind, List.length_append, List.length_singleton,
    List.append_assoc, List.singleton_append]

end FinishUpload

/-- Two steps start a row and finish it, unless the program stops in it. -/
theorem stepAll_row (run : OpenRun σ) (article : Wiki.Article) (rest : List Wiki.Article)
    (hrest : run.rest = article :: rest) (cancelled : Bool) (flags : List Bool) :
    Phase.stepAll setting id (false :: cancelled :: flags) (.betweenRows run) =
      (finishRow { run with rest } article).caught >>= fun
        | .ok next => Phase.stepAll setting id flags (.betweenRows next)
        | .error message => pure (.ended (.ofStop setting id message)) := by
  have hstart : Phase.step setting id false (.betweenRows run) =
      pure (.inRow { run with rest } article) := by
    rw [Phase.step, Phase.work]
    simp only [hrest]
    exact guarded_of_steady setting id (Activity.steady_pure _)
  rw [Phase.stepAll, hstart, pure_bind, Phase.stepAll, Phase.step, Phase.work, guarded_bind,
    bind_assoc]
  congr 1
  funext finished
  cases finished with
  | ok next => simp only [guarded_of_steady setting id (Activity.steady_pure _), pure_bind]
  | error message => simp only [pure_bind, stepAll_ended]

/-- The program stops in a row that was started, or the row is done. -/
theorem run_caught_finishRow (run : OpenRun σ) (article : Wiki.Article) (space : Workspace σ) :
    (∃ message after events,
      (finishRow run article).caught.run space = ⟨.error message, after, events⟩) ∨
    ∃ row after events, (finishRow run article).caught.run space =
      ⟨.ok { run with outcomes := run.outcomes ++ [row] }, after, events⟩ := by
  cases hstop : (finishRow run article).stop? space with
  | some stop => exact .inl ⟨_, _, _, Activity.run_caught_of_some hstop⟩
  | none => exact .inr ⟨_, _, _, Activity.run_caught_of_none hstop⟩

/-- The steps of an upload that comes to its end are an upload that is cancelled at some point, if
it is, but not before the rows that are done already. -/
theorem run_stepAll_betweenRows {flags : List Bool} {run : OpenRun σ} {space : Workspace σ}
    {status : Status}
    (h : ((Phase.stepAll setting id flags (.betweenRows run)).run space).value = .ended status) :
    ∃ cancel, (∀ done < run.outcomes.length, isCancelled cancel done = false) ∧
      (Phase.stepAll setting id flags (.betweenRows run)).run space =
        (guarded setting id (finishUpload id cancel run)).run space := by
  obtain ⟨client, plan, paths, data, total, outcomes, rest⟩ := run
  induction rest generalizing flags outcomes space with
  | nil =>
    cases flags with
    | nil => cases h
    | cons cancelled flags =>
      refine ⟨none, fun _ _ => rfl, ?_⟩
      rw [Phase.stepAll, Phase.step, Phase.work, finishJob_stepAll, finishUpload_of_done id rfl,
        guarded_of_steady setting id (steady_finishJob id _)]
  | cons article rest ih =>
    rcases flags with _ | ⟨_ | _, flags⟩
    · cases h
    -- The row is started, and its upload is the next step.
    · rcases flags with _ | ⟨cancelled, flags⟩
      · cases h
      rw [stepAll_row setting id _ article rest rfl, Activity.run_bind] at h ⊢
      rcases run_caught_finishRow ⟨client, plan, paths, data, total, outcomes, rest⟩ article space
        with ⟨message, after, events, hrow⟩ | ⟨row, after, events, hrow⟩
      · refine ⟨none, fun _ _ => rfl, ?_⟩
        rw [finishUpload_of_started id rfl rfl, guarded_bind, Activity.run_bind, hrow]
      · rw [hrow] at h ⊢
        obtain ⟨cancel, hbefore, hrest⟩ := ih (outcomes ++ [row]) h
        rw [List.length_append, List.length_singleton] at hbefore
        refine ⟨cancel, fun done hdone => hbefore done (Nat.lt_succ_of_lt hdone), ?_⟩
        have hstarted : isCancelled cancel outcomes.length = false :=
          hbefore outcomes.length (Nat.lt_succ_self _)
        rw [finishUpload_of_started id rfl hstarted, guarded_bind, Activity.run_bind, hrow]
        simp only [hrest]
    -- The rows that are not started are given up.
    · refine ⟨some outcomes.length, ?_, ?_⟩
      · intro done hdone
        exact decide_eq_false (Nat.not_le.mpr hdone)
      · have hcancelled : isCancelled (some outcomes.length) outcomes.length = true :=
          decide_eq_true (Nat.le_refl _)
        rw [finishUpload_of_cancelled id hcancelled,
          guarded_of_steady setting id (steady_finishJob id _), Phase.stepAll, Phase.step,
          Phase.work]
        exact congrFun (congrArg Activity.run (finishJob_stepAll setting id _ flags)) space

/-! ### The steps of a whole job -/

theorem steady_stopWith (error : RunFault) :
    (stopWith id error : Activity (Workspace σ) (Phase σ)).Steady :=
  (Activity.steady_log _).bind fun _ => (Activity.steady_logAll _).bind fun _ =>
    Activity.steady_pure _

theorem steady_reject (paths : RunFiles) (error : RunFault) :
    (recordRejected paths error >>= fun () => stopWith id error :
      Activity (Workspace σ) (Phase σ)).Steady :=
  (steady_recordRejected paths error).bind fun _ => steady_stopWith id error

/-- Nothing follows an error that stops a job. -/
theorem stopWith_stepAll (error : RunFault) (flags : List Bool) :
    stopWith id error >>= Phase.stepAll setting id flags = stopWith id error := by
  simp only [stopWith, bind_assoc, pure_bind, stepAll_ended]

theorem ended_halt (error : RunFault) :
    Phase.ended <$> halt id error = (stopWith id error : Activity (Workspace σ) (Phase σ)) := by
  simp only [halt, stopWith, map_bind, map_pure]

/-- What follows a run. -/
def afterRun (id : String) : Except RunFault RunResult → Activity (Workspace σ) (Phase σ)
  | .error error => stopWith id error
  | .ok report => do
    Activity.logAll (settle id report).2
    pure (.ended (settle id report).1)

theorem steady_afterRun (result : Except RunFault RunResult) :
    (afterRun id result : Activity (Workspace σ) (Phase σ)).Steady := by
  cases result with
  | error error => exact steady_stopWith id error
  | ok report => exact (Activity.steady_logAll _).bind fun _ => Activity.steady_pure _

/-- What follows a run never stops the program, so the guard of the run may be put around it. -/
theorem ended_runJob (settings : Settings) (client : WikiAccess σ) (way : Way) :
    Phase.ended <$> runJob setting id settings client way = guarded setting id
      (runWith settings client (.ofJob setting.artifacts id)
        (way.upload client (uploadPlan settings)) >>= afterRun id) := by
  rw [runJob, guarded_bind, map_bind]
  congr 1
  funext result
  cases result with
  | error message => rfl
  | ok result =>
    dsimp only
    rw [guarded_of_steady setting id (steady_afterRun id result)]
    cases result with
    | error error => exact ended_halt id error
    | ok report => simp only [afterRun, map_bind, map_pure]

/-- What follows the preparation of a run: the job ends if the program has stopped or the run is not
prepared, and goes on otherwise. -/
def afterPreparation (setting : JobSetting σ) (id : String) (paths : RunFiles)
    (go : ReadyRun → Activity (Workspace σ) (Phase σ)) :
    Except String (Except RunFault ReadyRun) → Activity (Workspace σ) (Phase σ)
  | .error message => pure (.ended (.ofStop setting id message))
  | .ok (.error error) => do
    recordRejected paths error
    stopWith id error
  | .ok (.ok prepared) => go prepared

section Preparation

variable (settings : Settings) (client : WikiAccess σ)

/-- The run of a job in one go, with its preparation apart. -/
theorem ended_runJob_of_inTurn (cancel : CancelAfter) :
    let paths := RunFiles.ofJob setting.artifacts id
    Phase.ended <$> runJob setting id settings client (.inTurn cancel) =
      (prepare settings client paths).run.caught >>= afterPreparation setting id paths
        fun prepared => guarded setting id <|
          finishUpload id cancel (openRun settings client paths prepared) := by
  intro paths
  rw [ended_runJob, runWith, bind_assoc, guarded_bind]
  congr 1
  funext result
  rcases result with message | error | prepared
  · rfl
  · simp only [bind_assoc, pure_bind]
    exact guarded_of_steady setting id (steady_reject id paths error)
  · simp only [bind_assoc, pure_bind]
    rfl

/-- The steps of the run of a job, with its preparation apart. -/
theorem prepareJob_stepAll (flags : List Bool) :
    let paths := RunFiles.ofJob setting.artifacts id
    guarded setting id (prepareJob id settings client paths) >>= Phase.stepAll setting id flags =
      (prepare settings client paths).run.caught >>= afterPreparation setting id paths
        fun prepared => Phase.stepAll setting id flags <|
          .betweenRows (openRun settings client paths prepared) := by
  intro paths
  rw [prepareJob, guarded_bind, bind_assoc]
  congr 1
  funext result
  rcases result with message | error | prepared
  · exact (pure_bind _ _).trans (stepAll_ended setting id flags _)
  · simp only [guarded_of_steady setting id (steady_reject id paths error), bind_assoc,
      stopWith_stepAll, afterPreparation]
  · simp only [guarded_of_steady setting id (Activity.steady_pure _), pure_bind, afterPreparation]

end Preparation

/-- The steps of the run of a job that comes to its end. -/
theorem run_prepareJob_stepAll {settings : Settings} {client : WikiAccess σ} {flags : List Bool}
    {space : Workspace σ} {status : Status}
    (h : ((guarded setting id (prepareJob id settings client (.ofJob setting.artifacts id)) >>=
      Phase.stepAll setting id flags).run space).value = .ended status) :
    ∃ cancel,
      (guarded setting id (prepareJob id settings client (.ofJob setting.artifacts id)) >>=
        Phase.stepAll setting id flags).run space =
      (Phase.ended <$> runJob setting id settings client (.inTurn cancel)).run space := by
  -- Both begin with the same preparation, and differ only in what follows it.
  simp only [prepareJob_stepAll, ended_runJob_of_inTurn, Activity.run_bind] at h ⊢
  generalize (prepare settings client (.ofJob setting.artifacts id)).run.caught.run space =
    prepared at h ⊢
  obtain ⟨message | error | ready, middle, events⟩ := prepared
  · exact ⟨none, rfl⟩
  · exact ⟨none, rfl⟩
  · simp only [afterPreparation] at h ⊢
    obtain ⟨cancel, -, hsteps⟩ := run_stepAll_betweenRows setting id h
    refine ⟨cancel, ?_⟩
    rw [hsteps]

/-- What is done once a job has said that it starts, from the workspace that it finds. -/
theorem run_started {β : Type} (next : Workspace σ → Activity (Workspace σ) β)
    (space : Workspace σ) :
    let started := (next space).run space
    (Activity.report (.progress 0 0) >>= fun () =>
      Activity.log (Log.info s!"Starting merge job {id}") >>= fun () =>
        Activity.state >>= next).run space =
      ⟨started.value, started.state, .progress 0 0 ::
        .log (Log.info s!"Starting merge job {id}") :: started.events⟩ := rfl

/-- The steps of a job that has ended are a job in one go that is cancelled at some point, if it
is. -/
theorem wholeJob_of_stepAll {data : Option Path} {flags : List Bool} {space : Workspace σ}
    {status : Status}
    (h : ((Phase.stepAll setting id flags (.created data)).run space).value = .ended status) :
    ∃ cancel, (Phase.stepAll setting id flags (.created data)).run space =
      (Phase.ended <$> wholeJob setting id data (.inTurn cancel)).run space := by
  rcases flags with _ | ⟨_, flags⟩
  · cases h
  rw [Phase.stepAll, Phase.step, Phase.work, begin] at h ⊢
  -- Nothing stops before the configuration is read, so the guard moves behind it.
  simp only [wholeJob, map_bind, guarded_steady_bind setting id (Activity.steady_report _),
    guarded_steady_bind setting id (Activity.steady_log _),
    guarded_steady_bind setting id Activity.steady_state, bind_assoc, run_started] at h ⊢
  cases hload : Config.load space.files setting.config setting.account data with
  | error failure =>
    refine ⟨none, ?_⟩
    cases failure with
    | aborted =>
      simp only [guarded_of_steady setting id (Activity.steady_pure _), pure_bind, stepAll_ended,
        map_pure]
    | refused error =>
      simp only [guarded_of_steady setting id (steady_stopWith id _), stopWith_stepAll, ended_halt]
  | ok settings =>
    cases hclient : setting.client settings with
    | error error =>
      refine ⟨none, ?_⟩
      simp only [hclient, guarded_of_steady setting id (steady_stopWith id _), stopWith_stepAll,
        ended_halt]
    | ok client =>
      simp only [hload, hclient] at h
      obtain ⟨cancel, hsteps⟩ := run_prepareJob_stepAll setting id h
      refine ⟨cancel, ?_⟩
      simp only [hclient, hsteps]

end Steps

end PageMerge.Job
