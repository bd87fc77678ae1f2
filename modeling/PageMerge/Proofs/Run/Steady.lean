import PageMerge.Program
import PageMerge.Proofs.Upload.Steady

/-!
# Runs do not stop the program by themselves

Files, templates and data that cannot be used are errors of a run, and the program goes on after
them. So nothing but a call to the wiki stops the program in the middle of a run. A command takes up
such a stop, and so every call of the program has an end.

## Main results

* `steady_prepare`: the preparation of a run
* `steady_conclude`: what is done after the upload
* `steady_runWith`: a run with steady calls
* `Program.steady_perform`: a command, whatever its network does
-/

namespace PageMerge

open PageMerge.Activity (steady_log steady_logAll steady_pure steady_silent steady_state)
open PageMerge.Config (Settings)
open PageMerge.Data (DataSet Row)
open PageMerge.Files (FileTree Path)
open PageMerge.Upload (RowOutcome)
open PageMerge.Wiki (Article WikiAccess)
open Workspace

variable {σ α β ε : Type}

/-! ### Steps in a workspace -/

theorem Workspace.onWiki_pure (a : α) : (onWiki (pure a) : Activity (Workspace σ) α) = pure a := rfl

theorem Workspace.onWiki_bind (act : Activity σ α) (next : α → Activity σ β) :
    onWiki (act >>= next) = onWiki act >>= fun a => onWiki (next a) := by
  have hget : ∀ (space : Workspace σ) (w : σ), ({ space with wiki := w } : Workspace σ).wiki = w :=
    fun _ _ => rfl
  exact Activity.onPart_bind hget (fun _ _ _ => rfl) act next

theorem Workspace.steady_onWiki {act : Activity σ α} (h : act.Steady) : (onWiki act).Steady :=
  h.onPart _ _

theorem Workspace.steady_onFiles (step : FileTree → α × FileTree) :
    (onFiles step : Activity (Workspace σ) α).Steady :=
  (steady_silent step).onPart _ _

theorem Workspace.steady_onStore (step : TemplateStore → α × TemplateStore) :
    (onStore step : Activity (Workspace σ) α).Steady :=
  (steady_silent step).onPart _ _

theorem RunActivity.steady_log (entry : Log.Entry) :
    (RunActivity.log entry : RunActivity σ Unit).run.Steady :=
  (Activity.steady_log entry).bind fun _ => steady_pure _

theorem RunActivity.steady_attempt (wrap : ε → RunFault)
    {act : Activity (Workspace σ) (Except ε α)} (h : act.Steady) :
    (RunActivity.attempt wrap act).run.Steady :=
  h.bind fun _ => steady_pure _

/-! ### Preparation -/

theorem steady_dump (path : Path) (value : Json.Value) :
    (dump path value : RunActivity σ Unit).run.Steady :=
  RunActivity.steady_attempt _ (steady_onFiles _)

theorem steady_dumpArticles (directory : Path) (rows : List (Row × Article)) :
    (dumpArticles directory rows : RunActivity σ Unit).run.Steady := by
  induction rows with
  | nil => exact steady_pure _
  | cons entry rest ih => exact (steady_dump _ _).bindOk fun _ => ih

theorem steady_loadData (settings : Settings) :
    (loadData settings : RunActivity σ DataSet).run.Steady := by
  have hread : (readData settings : Activity (Workspace σ) _).Steady :=
    steady_state.bind fun _ => (steady_logAll _).bind fun _ => steady_pure _
  exact (RunActivity.steady_log _).bindOk fun _ =>
    (RunActivity.steady_attempt _ hread).bindOk fun _ =>
      (RunActivity.steady_log _).bindOk fun _ => steady_pure _

theorem steady_fetchTemplate {client : WikiAccess σ} {settings : Settings}
    (h : (client.fetchTemplate settings.templateId).Steady) :
    (fetchTemplate settings client).run.Steady :=
  (RunActivity.steady_log _).bindOk fun _ => RunActivity.steady_attempt _ (steady_onWiki h)

theorem steady_parseTemplate (settings : Settings) (page : Wiki.TemplatePage) :
    (parseTemplate settings page : RunActivity σ Template).run.Steady := by
  have hobtain : (obtainTemplate settings page : Activity (Workspace σ) _).Steady :=
    steady_state.bind fun _ => (steady_logAll _).bind fun _ => steady_onStore _
  exact (RunActivity.steady_attempt _ hobtain).bindOk fun _ => steady_pure _

theorem steady_generateArticles (template : Template) (data : DataSet) :
    (generateArticles template data : RunActivity σ (List Article)).run.Steady :=
  Activity.Steady.bindOk (steady_pure _) fun _ =>
    (RunActivity.steady_log _).bindOk fun _ => steady_pure _

/-- The program does not stop while a run is prepared, if it does not when the template is
downloaded. -/
theorem steady_prepare {client : WikiAccess σ} {settings : Settings}
    (h : (client.fetchTemplate settings.templateId).Steady) (paths : RunFiles) :
    (prepare settings client paths).run.Steady := by
  have hrest : ∀ data page, (do
      let template ← parseTemplate settings page
      let articles ← generateArticles template data
      if settings.dumpGeneratedArticles then
        dumpArticles paths.dumpDirectory (data.rows.zip articles)
      pure ⟨data, articles⟩ : RunActivity σ ReadyRun).run.Steady := by
    intro data page
    refine (steady_parseTemplate _ _).bindOk fun _ => (steady_generateArticles _ _).bindOk ?_
    intro articles
    dsimp only
    split
    · exact (steady_dumpArticles _ _).bindOk fun _ => steady_pure _
    · exact steady_pure _
  rw [prepare]
  refine (steady_loadData settings).bindOk fun data => (steady_fetchTemplate h).bindOk ?_
  intro page
  dsimp only
  split
  · exact (steady_dump _ _).bindOk fun _ => hrest data page
  · exact hrest data page

/-! ### The end of a run -/

theorem steady_recordRejected (paths : RunFiles) (error : RunFault) :
    (recordRejected paths error : Activity (Workspace σ) Unit).Steady := by
  refine (steady_onFiles _).bind ?_
  rintro (e | _)
  · exact steady_log _
  · exact steady_pure _

/-- The program does not stop after the upload. -/
theorem steady_conclude (paths : RunFiles) (data : DataSet) (outcomes : List RowOutcome) :
    (conclude paths data outcomes : Activity (Workspace σ) RunResult).Steady := by
  have hledger : (saveLedgerOf paths data outcomes : Activity (Workspace σ) RunResult).Steady := by
    rw [saveLedgerOf]
    split
    · exact steady_pure _
    · refine (steady_onFiles _).bind ?_
      rintro (e | _) <;> exact (steady_log _).bind fun _ => steady_pure _
  have hreport : ∀ report, (recordCompleted paths report :
      Activity (Workspace σ) RunResult).Steady := by
    intro report
    refine (steady_onFiles _).bind ?_
    rintro (e | _) <;> exact steady_pure _
  exact hledger.bind fun report => (steady_log _).bind fun _ => hreport report

/-- The program does not stop in a run whose calls are steady. -/
theorem steady_runWith {client : WikiAccess σ} {settings : Settings} {paths : RunFiles}
    {upload : List Article → Activity σ (List RowOutcome)}
    (hfetch : (client.fetchTemplate settings.templateId).Steady)
    (hupload : ∀ articles, (upload articles).Steady) :
    (runWith settings client paths upload).Steady := by
  refine (steady_prepare hfetch paths).bind ?_
  rintro (e | prepared)
  · exact (steady_recordRejected _ _).bind fun _ => steady_pure _
  · exact (steady_onWiki (hupload prepared.articles)).bind fun _ =>
      (steady_conclude _ _ _).bind fun _ => steady_pure _

/-! ### Commands -/

theorem Program.steady_withSettings (config : Path) (account : Config.Account)
    (data : Option Path) (go : Settings → Activity (Workspace σ) ExitStatus) :
    (withSettings config account data go).Steady := by
  refine steady_state.bind fun space => ?_
  split
  · exact (Activity.steady_caught _).bind fun result => by cases result <;> exact steady_pure _
  · exact steady_pure _
  · exact (steady_logAll _).bind fun _ => steady_pure _

theorem Program.steady_serve (network : Network σ) (host : String) (port : Nat) :
    (serve network host port : Activity (Workspace σ) Ending).Steady := by
  refine (steady_log _).bind fun _ => ?_
  split
  · exact steady_pure _
  · exact (steady_log _).bind fun _ => steady_pure _

/-- A stop in the middle of a command is the end of the command. -/
theorem Program.steady_perform (network : Network σ) (invocation : CommandLine.Invocation) :
    (perform network invocation).Steady := by
  rw [perform]
  cases invocation.command with
  | run data => exact steady_withSettings _ _ _ _
  | validate data => exact steady_withSettings _ _ _ _
  | serve host port => exact steady_serve network host port

end PageMerge
