import PageMerge.Proofs.Activity
import PageMerge.Proofs.Upload.Order
import PageMerge.Wiki.Memory

/-!
# Where an upload stops the program

Nothing but a call to the wiki stops the program while a row is uploaded. So no upload stops it,
whether row by row or by a pool, if the calls of its client never do.

## Main definitions

* `WikiAccess.Steady`: the program does not stop in the calls of a client

## Main results

* `stop?_lookUp`, `stop?_createPage`, `stop?_updatePage`: a part of a row stops as its call does
* `Way.steady_upload`: uploads by a steady client
-/

namespace PageMerge

open PageMerge.Wiki (Article MemoryWiki PageVersion WikiAccess)

variable {σ : Type}

/-! ### Clients -/

/-- The program does not stop in the calls of a client. -/
structure Wiki.WikiAccess.Steady (client : WikiAccess σ) : Prop where
  fetchTemplate (id : String) : (client.fetchTemplate id).Steady
  findPage (title space : String) : (client.findPage title space).Steady
  create (article : Article) (space : String) (parent : Option String) :
    (client.create article space parent).Steady
  update (page : PageVersion) (article : Article) (space : String) :
    (client.update page article space).Steady

/-- The program does not stop in the calls to a wiki in memory. -/
theorem Wiki.MemoryWiki.steady_client : MemoryWiki.client.Steady where
  fetchTemplate _ := Activity.steady_silent _
  findPage _ _ := Activity.steady_silent _
  create _ _ _ := Activity.steady_silent _
  update _ _ _ := Activity.steady_silent _

namespace Upload

open Activity (Steady)

/-! ### Rows -/

section Calls

variable (client : WikiAccess σ) (article : Article) (plan : Plan)

theorem steady_fail (stage : FailedCall) (notice : Log.Entry) (error : Wiki.CallError) :
    (fail stage notice error : Activity σ Outcome).Steady :=
  (Activity.steady_log _).bind fun _ => Activity.steady_pure _

/-- A row stops the program in its search as the search does. -/
theorem stop?_lookUp (s : σ) :
    (lookUp client article plan).stop? s =
      (client.findPage article.title plan.space).stop? s := by
  refine Steady.stop?_bind_of ?_ _ s
  rintro (e | found)
  · exact (steady_fail _ _ _).bind fun _ => Activity.steady_pure _
  · exact Activity.steady_pure _

/-- A row stops the program as the call that creates its page. -/
theorem stop?_createPage (s : σ) :
    (createPage client article plan).stop? s =
      (client.create article plan.space plan.parentPageId).stop? s := by
  refine Steady.stop?_bind_of ?_ _ s
  rintro (e | _)
  · exact steady_fail _ _ _
  · exact (Activity.steady_log _).bind fun _ => Activity.steady_pure _

/-- A row stops the program as the call that overwrites its page, after it has said so. -/
theorem stop?_updatePage (page : PageVersion) (s : σ) :
    (updatePage client article plan page).stop? s =
      ((client.update page article plan.space).stop? s).map
        (Stop.after [.log (overwriteNotice article)]) := by
  rw [updatePage, Activity.stop?_log_bind, Steady.stop?_bind_of]
  rintro (e | _)
  · exact steady_fail _ _ _
  · exact Activity.steady_pure _

end Calls

/-! ### Uploads by a steady client -/

section Uploads

variable {client : WikiAccess σ} (hclient : client.Steady) (plan : Plan)
include hclient

theorem steady_lookUp (article : Article) : (lookUp client article plan).Steady := by
  intro s
  rw [stop?_lookUp]
  exact hclient.findPage _ _ s

theorem steady_publish (article : Article) (found : Option PageVersion) :
    (publish client article plan found).Steady := by
  intro s
  cases found with
  | none =>
    rw [publish, stop?_createPage]
    exact hclient.create _ _ _ s
  | some page =>
    rw [publish]
    split
    · rw [stop?_updatePage, hclient.update _ _ _ s, Option.map_none]
    · rfl

theorem steady_next (article : Article) (progress : RowProgress) :
    (progress.next client article plan).Steady := by
  cases progress with
  | pending =>
    refine (steady_lookUp hclient plan article).bind ?_
    rintro (outcome | found) <;> exact Activity.steady_pure _
  | existenceChecked found =>
    exact (steady_publish hclient plan article found).bind fun _ => Activity.steady_pure _
  | done outcome => exact Activity.steady_pure _

theorem steady_uploadArticle (article : Article) : (uploadArticle client article plan).Steady := by
  refine (steady_lookUp hclient plan article).bind ?_
  rintro (outcome | found)
  · exact Activity.steady_pure _
  · exact steady_publish hclient plan article found

theorem steady_uploadFrom (cancel : CancelAfter) (total : Nat) (articles : List Article) :
    ∀ done, (uploadFrom client plan cancel total done articles).Steady := by
  induction articles with
  | nil => exact fun _ => Activity.steady_pure _
  | cons article rest ih =>
    intro done
    rw [uploadFrom]
    split
    · exact Activity.steady_pure _
    · have hattempt : (attempt client plan done total article).Steady :=
        (steady_uploadArticle hclient plan article).bind fun _ =>
          (Activity.steady_report _).bind fun _ => Activity.steady_pure _
      exact hattempt.bind fun _ => (ih (done + 1)).bind fun _ => Activity.steady_pure _

theorem Pool.steady_take (move : Move) : (Pool.take client plan move).Steady := by
  cases move with
  | advance row =>
    intro pool
    simp only [take, advanceStop?]
    split
    · rw [steady_next hclient plan _ _ pool.wiki, Option.map_none]
    · rfl
  | _ => exact Activity.steady_silent _

theorem Pool.steady_takeAll (moves : List Move) : (Pool.takeAll client plan moves).Steady := by
  induction moves with
  | nil => exact Activity.steady_pure _
  | cons move moves ih => exact (Pool.steady_take hclient plan move).thenAnyway ih

/-- Whatever way articles are uploaded by a steady client, the program does not stop. -/
theorem Way.steady_upload (way : Way) (articles : List Article) :
    (way.upload client plan articles).Steady := by
  cases way with
  | inTurn cancel => exact steady_uploadFrom hclient plan cancel _ articles 0
  | byPool moves =>
    intro wiki
    simp only [Way.upload, uploadPooled, Pool.steady_takeAll hclient plan _ _, Option.map_none]

end Uploads

end Upload

end PageMerge
