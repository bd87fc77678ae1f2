import PageMerge.Proofs.Failure
import PageMerge.Run.Result

/-!
# The stages of a run

What each stage of a run leads to, and what a run has passed when it is prepared.

## Main definitions

* `RunActivity.Ensures`: an activity leads to a result and a workspace of which a condition holds
* `Passed`: what a run has passed when it is prepared
* `PreparationEnd`: where the preparation of a run ends

## Main results

* `RunActivity.Ensures.bind`: one activity after the other
* `prepare_ensures`: where the preparation of a run ends
-/

namespace PageMerge

open PageMerge.Config (Settings)
open PageMerge.Data (DataSet Row)
open PageMerge.Files (Path)
open PageMerge.Json (Value)
open PageMerge.Wiki (Article TemplatePage WikiAccess)
open Workspace

variable {σ α β ε : Type}

/-! ### Conditions on what an activity leads to -/

namespace RunActivity

/-- From a workspace on, the activity leads to a result and a workspace of which the condition
holds. -/
def Ensures (act : RunActivity σ α) (space : Workspace σ)
    (post : Except RunFault α → Workspace σ → Prop) : Prop :=
  post (act.run.run space).value (act.run.run space).state

variable {space : Workspace σ} {post : Except RunFault α → Workspace σ → Prop}

/-- A weaker condition. -/
theorem Ensures.mono {act : RunActivity σ α} (h : act.Ensures space post)
    {weaker : Except RunFault α → Workspace σ → Prop}
    (himp : ∀ result after, post result after → weaker result after) :
    act.Ensures space weaker :=
  himp _ _ h

/-- One activity after the other; the second one is not started after an error. -/
theorem Ensures.bind {act : RunActivity σ α} {next : α → RunActivity σ β}
    {goal : Except RunFault β → Workspace σ → Prop} (h : act.Ensures space post)
    (hok : ∀ a after, post (.ok a) after → (next a).Ensures after goal)
    (herror : ∀ e after, post (.error e) after → goal (.error e) after) :
    (act >>= next).Ensures space goal := by
  have hrun : ((act >>= next).run.run space).value =
      (match (act.run.run space).value with
        | .ok a => ((next a).run.run (act.run.run space).state).value
        | .error e => .error e) ∧
      ((act >>= next).run.run space).state =
      (match (act.run.run space).value with
        | .ok a => ((next a).run.run (act.run.run space).state).state
        | .error _ => (act.run.run space).state) := by
    rw [ExceptT.run_bind, Activity.run_bind]
    cases (act.run.run space).value <;> exact ⟨rfl, rfl⟩
  rw [Ensures, hrun.1, hrun.2]
  rw [Ensures] at h
  cases hvalue : (act.run.run space).value with
  | ok a =>
    rw [hvalue] at h
    exact hok a _ h
  | error e =>
    rw [hvalue] at h
    exact herror e _ h

/-- An activity whose end is known, before another one. -/
theorem Ensures.step {act : RunActivity σ α} {a : α} {middle : Workspace σ}
    {next : α → RunActivity σ β} {goal : Except RunFault β → Workspace σ → Prop}
    (h : act.Ensures space fun result after => result = .ok a ∧ after = middle)
    (hnext : (next a).Ensures middle goal) : (act >>= next).Ensures space goal := by
  refine h.bind ?_ ?_
  · rintro _ _ ⟨hok, rfl⟩
    cases hok
    exact hnext
  · rintro e _ ⟨he, _⟩
    cases he

/-- An activity that is left out unless a condition holds, before another one. -/
theorem Ensures.whenever {condition : Prop} [Decidable condition] {act : RunActivity σ α}
    {a : α} {next : α → RunActivity σ β} {goal : Except RunFault β → Workspace σ → Prop}
    (h : condition → act.Ensures space post) (hskip : ¬condition → post (.ok a) space)
    (hok : ∀ a after, post (.ok a) after → (next a).Ensures after goal)
    (herror : ∀ e after, post (.error e) after → goal (.error e) after) :
    (if condition then act >>= next else next a).Ensures space goal := by
  split
  · rename_i hcondition
    exact (h hcondition).bind hok herror
  · rename_i hcondition
    exact hok a space (hskip hcondition)

/-- An activity that may be left out, before another one. -/
theorem Ensures.when {condition : Prop} [Decidable condition] {act : RunActivity σ α}
    {a : α} {next : α → RunActivity σ β} {goal : Except RunFault β → Workspace σ → Prop}
    (h : act.Ensures space post) (hskip : post (.ok a) space)
    (hok : ∀ a after, post (.ok a) after → (next a).Ensures after goal)
    (herror : ∀ e after, post (.error e) after → goal (.error e) after) :
    (if condition then act >>= next else next a).Ensures space goal :=
  Ensures.whenever (fun _ => h) (fun _ => hskip) hok herror

theorem ensures_pure {a : α} (h : post (.ok a) space) :
    (pure a : RunActivity σ α).Ensures space post := h

/-- An entry of the log changes nothing. -/
theorem ensures_log (entry : Log.Entry) :
    (RunActivity.log entry : RunActivity σ Unit).Ensures space fun result after =>
      result = .ok () ∧ after = space :=
  ⟨rfl, rfl⟩

/-- An activity whose errors become errors of the run. -/
theorem ensures_attempt (wrap : ε → RunFault) (act : Activity (Workspace σ) (Except ε α)) :
    (RunActivity.attempt wrap act).Ensures space fun result after =>
      result = (act.run space).value.mapError wrap ∧ after = (act.run space).state :=
  ⟨rfl, rfl⟩

end RunActivity

open RunActivity (Ensures ensures_attempt ensures_log ensures_pure)

/-! ### Single stages -/

/-- Only files were changed, and nothing but a file that is not written keeps the run from going
on. -/
def OnlyFiles (before : Workspace σ) (result : Except RunFault Unit) (after : Workspace σ) : Prop :=
  (∀ e, result = .error e → ∃ path cause, e = .artifact path cause) ∧
    after.wiki = before.wiki ∧ after.store = before.store

theorem OnlyFiles.nothing (space : Workspace σ) : OnlyFiles space (.ok ()) space :=
  ⟨by simp, rfl, rfl⟩

section Stages

variable (settings : Settings) (space : Workspace σ)

/-- Loading the article data changes nothing. -/
theorem loadData_ensures :
    (loadData settings : RunActivity σ DataSet).Ensures space fun result after =>
      result = (Data.loadFile space.files settings.dataCsv settings.delimiter
        settings.idColumnHeader).1.mapError .data ∧ after = space := by
  refine (ensures_log _).bind ?_ (by rintro e after ⟨h, _⟩; cases h)
  rintro _ _ ⟨_, rfl⟩
  refine (ensures_attempt _ _).bind ?_ ?_
  · rintro data _ ⟨hdata, rfl⟩
    refine (ensures_log _).bind ?_ (by rintro e after ⟨h, _⟩; cases h)
    rintro _ _ ⟨_, rfl⟩
    exact ensures_pure ⟨hdata, rfl⟩
  · rintro e _ ⟨he, rfl⟩
    exact ⟨he, rfl⟩

/-- Downloading the template is one call. -/
theorem fetchTemplate_ensures (client : WikiAccess σ) :
    (fetchTemplate settings client).Ensures space fun result after =>
      result = ((client.fetchTemplate settings.templateId).run space.wiki).value.mapError
        (templateError settings.templateId) ∧
      after = { space with
        wiki := ((client.fetchTemplate settings.templateId).run space.wiki).state } := by
  refine (ensures_log _).bind ?_ (by rintro e after ⟨h, _⟩; cases h)
  rintro _ _ ⟨_, rfl⟩
  exact ensures_attempt _ _

/-- A dump changes the files only. -/
theorem dump_ensures (path : Path) (value : Value) :
    (dump path value : RunActivity σ Unit).Ensures space (OnlyFiles space) := by
  refine (ensures_attempt _ _).mono ?_
  rintro _ _ ⟨rfl, rfl⟩
  refine ⟨?_, rfl, rfl⟩
  intro e he
  obtain ⟨cause, rfl, _⟩ := exists_of_mapError he.symm
  exact ⟨path, cause, rfl⟩

/-- Dumps change the files only. -/
theorem dumpArticles_ensures (directory : Path) (rows : List (Row × Article)) :
    ∀ space : Workspace σ,
      (dumpArticles directory rows : RunActivity σ Unit).Ensures space (OnlyFiles space) := by
  induction rows with
  | nil => exact fun space => ensures_pure (OnlyFiles.nothing space)
  | cons entry rest ih =>
    intro space
    obtain ⟨row, article⟩ := entry
    refine (dump_ensures space _ _).bind ?_ ?_
    · rintro _ middle ⟨_, hwiki, hstore⟩
      refine (ih middle).mono ?_
      rintro result after ⟨hfault, hwiki', hstore'⟩
      exact ⟨hfault, hwiki'.trans hwiki, hstore'.trans hstore⟩
    · exact fun e after h => h

/-- Taking the template apart changes the kept templates only. -/
theorem parseTemplate_ensures (page : TemplatePage) :
    (parseTemplate settings page : RunActivity σ Template).Ensures space fun result after =>
      result = ((space.store.obtain settings.marks page).1.map
        ScannedTemplate.template).mapError .grammar ∧
      after = { space with store := (space.store.obtain settings.marks page).2 } := by
  refine (ensures_attempt _ _).bind ?_ ?_
  · rintro scanned _ ⟨hscanned, rfl⟩
    refine ensures_pure ⟨?_, rfl⟩
    have hobtain : (space.store.obtain settings.marks page).1 = .ok scanned :=
      eq_ok_of_mapError hscanned
    rw [hobtain]
    rfl
  · rintro e _ ⟨he, rfl⟩
    refine ⟨?_, rfl⟩
    have hobtain := exists_of_mapError he
    obtain ⟨cause, rfl, hcause⟩ := hobtain
    have hobtain : (space.store.obtain settings.marks page).1 = .error cause := hcause
    rw [hobtain]
    rfl

/-- Generating the articles changes nothing. -/
theorem generateArticles_ensures (template : Template) (data : DataSet) :
    (generateArticles template data : RunActivity σ (List Article)).Ensures space
      fun result after =>
        result = (Batch.articles template data).mapError .validation ∧ after = space := by
  have hpure : (RunActivity.ofExcept .validation (Batch.articles template data) :
      RunActivity σ (List Article)).Ensures space fun result after =>
        result = (Batch.articles template data).mapError .validation ∧ after = space := ⟨rfl, rfl⟩
  refine hpure.bind ?_ ?_
  · rintro articles _ ⟨harticles, rfl⟩
    refine (ensures_log _).bind ?_ (by rintro e after ⟨h, _⟩; cases h)
    rintro _ _ ⟨_, rfl⟩
    exact ensures_pure ⟨harticles, rfl⟩
  · rintro e _ ⟨he, rfl⟩
    exact ⟨he, rfl⟩

end Stages

/-! ### Preparation -/

/-- What a run has passed when it is prepared: the data were loaded, the template was downloaded and
taken apart, and the batch was not refused. -/
structure Passed (settings : Settings) (client : WikiAccess σ) (space : Workspace σ)
    (template : Template) (ready : ReadyRun) : Prop where
  loaded : (Data.loadFile space.files settings.dataCsv settings.delimiter
    settings.idColumnHeader).1 = .ok ready.data
  parsed : ∃ page scanned,
    ((client.fetchTemplate settings.templateId).run space.wiki).value = .ok page ∧
      (space.store.obtain settings.marks page).1 = .ok scanned ∧ scanned.template = template
  articles : Batch.articles template ready.data = .ok ready.articles

/-- The wiki after the template was asked for. -/
def wikiAfterFetch (settings : Settings) (client : WikiAccess σ) (space : Workspace σ) : σ :=
  ((client.fetchTemplate settings.templateId).run space.wiki).state

/-- Where the preparation of a run ends: with data that cannot be used, and then nothing was done,
with another error after the template was asked for, or with a run that has passed every check. -/
def PreparationEnd (settings : Settings) (client : WikiAccess σ) (space : Workspace σ)
    (result : Except RunFault ReadyRun) (after : Workspace σ) : Prop :=
  match result with
  | .ok ready => after.wiki = wikiAfterFetch settings client space ∧
      ∃ template, Passed settings client space template ready
  | .error (.data _) => after = space
  | .error _ => after.wiki = wikiAfterFetch settings client space

/-- An error after the template was asked for. -/
theorem PreparationEnd.error {settings : Settings} {client : WikiAccess σ}
    {space after : Workspace σ} {e : RunFault} (he : ∀ cause, e ≠ .data cause)
    (hwiki : after.wiki = wikiAfterFetch settings client space) :
    PreparationEnd settings client space (.error e) after := by
  cases e with
  | data cause => exact absurd rfl (he cause)
  | _ => exact hwiki

/-- Where the preparation of a run ends. -/
theorem prepare_ensures (settings : Settings) (client : WikiAccess σ) (paths : RunFiles)
    (space : Workspace σ) :
    (prepare settings client paths).Ensures space (PreparationEnd settings client space) := by
  have hnodata : ∀ {before after : Workspace σ} {e : RunFault},
      OnlyFiles before (.error e) after → ∀ cause, e ≠ .data cause := by
    rintro before after e ⟨hfault, _⟩ cause rfl
    obtain ⟨_, _, h⟩ := hfault _ rfl
    cases h
  rw [prepare]
  refine (loadData_ensures settings space).bind ?_ ?_
  case refine_2 =>
    rintro e _ ⟨he, rfl⟩
    obtain ⟨cause, rfl, _⟩ := exists_of_mapError he
    rfl
  rintro data _ ⟨hdata, rfl⟩
  refine (fetchTemplate_ensures settings _ client).bind ?_ ?_
  case refine_2 =>
    rintro e _ ⟨he, rfl⟩
    obtain ⟨cause, rfl, _⟩ := exists_of_mapError he
    refine PreparationEnd.error ?_ rfl
    intro error
    cases cause <;> simp [templateError]
  -- From here on the template was asked for, and no further call is made.
  rintro page _ ⟨hpage, rfl⟩
  dsimp only
  refine (dump_ensures _ _ _).when (OnlyFiles.nothing _) ?_ ?_
  case refine_2 => exact fun e after h => PreparationEnd.error (hnodata h) h.2.1
  rintro _ dumped ⟨_, hwiki, hstore⟩
  -- The dump left the kept templates alone, so the template is obtained from those of the start.
  refine (parseTemplate_ensures settings dumped page).bind ?_ ?_
  case refine_2 =>
    rintro e _ ⟨he, rfl⟩
    obtain ⟨cause, rfl, _⟩ := exists_of_mapError he
    exact PreparationEnd.error (by simp) hwiki
  rintro template _ ⟨htemplate, rfl⟩
  refine (generateArticles_ensures _ template data).bind ?_ ?_
  case refine_2 =>
    rintro e _ ⟨he, rfl⟩
    obtain ⟨cause, rfl, _⟩ := exists_of_mapError he
    exact PreparationEnd.error (by simp) hwiki
  rintro articles _ ⟨harticles, rfl⟩
  refine (dumpArticles_ensures _ _ _).when (OnlyFiles.nothing _) ?_ ?_
  case refine_2 =>
    exact fun e after h => PreparationEnd.error (hnodata h) (h.2.1.trans hwiki)
  rintro _ after ⟨_, hwiki', _⟩
  -- A run that comes to its end has passed every check.
  refine ensures_pure ⟨hwiki'.trans hwiki, template, eq_ok_of_mapError hdata, ?_,
    eq_ok_of_mapError harticles⟩
  have hscanned := eq_ok_of_mapError htemplate
  rw [hstore] at hscanned
  obtain ⟨scanned, hobtain, hparsed⟩ := exists_of_map_eq_ok hscanned
  exact ⟨page, scanned, eq_ok_of_mapError hpage, hobtain, hparsed⟩

end PageMerge
