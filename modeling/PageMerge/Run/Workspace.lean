import PageMerge.Data.Load
import PageMerge.Run.Fault
import PageMerge.Template.Store
import PageMerge.Wiki.Client

/-!
# The workspace of runs

What a run works on: the wiki, the files and the templates that were kept. Several runs can follow
each other in one workspace.

## Main definitions

* `Workspace`: wiki, files and kept templates
* `RunActivity`: an activity in a workspace that can fail
-/

namespace PageMerge

open PageMerge.Files (FileTree)

/-- What a run works on. -/
structure Workspace (σ : Type) where
  wiki : σ
  files : FileTree
  store : TemplateStore

/-- An activity in a workspace that can fail with an error of the run. -/
abbrev RunActivity (σ α : Type) := ExceptT RunFault (Activity (Workspace σ)) α

namespace Workspace

variable {σ α : Type}

/-- An activity with the wiki. -/
def onWiki (act : Activity σ α) : Activity (Workspace σ) α :=
  act.onPart wiki fun space wiki => { space with wiki }

/-- A step with the files. -/
def onFiles (step : FileTree → α × FileTree) : Activity (Workspace σ) α :=
  (Activity.silent step).onPart files fun space files => { space with files }

/-- A step with the kept templates. -/
def onStore (step : TemplateStore → α × TemplateStore) : Activity (Workspace σ) α :=
  (Activity.silent step).onPart store fun space store => { space with store }

end Workspace

namespace RunActivity

variable {σ α ε : Type}

/-- Writes an entry into the log. -/
def log (entry : Log.Entry) : RunActivity σ Unit := ExceptT.lift (Activity.log entry)

/-- An activity whose errors become errors of the run. -/
def attempt (wrap : ε → RunFault) (act : Activity (Workspace σ) (Except ε α)) :
    RunActivity σ α :=
  ExceptT.mk do return (← act).mapError wrap

/-- The value of a computation whose errors become errors of the run. -/
def ofExcept (wrap : ε → RunFault) (result : Except ε α) : RunActivity σ α :=
  ExceptT.mk (pure (result.mapError wrap))

end RunActivity

end PageMerge
