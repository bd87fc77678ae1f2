import PageMerge.Upload.All

/-!
# A pool of workers

Several workers upload the rows of a run at the same time. A worker takes a row, unless the run was
cancelled by then, and makes its calls one after the other; the calls of different rows come in any
order. That order is a schedule: a list of moves, each of which starts a row, makes the next call of
a row, or cancels the run. A move that is not possible does nothing. If the program stops in a call
of one row, it does so once the other rows have ended.

## Main definitions

* `Slot`, `Pool`: rows that are uploaded at the same time
* `Move`, `Pool.take`, `Pool.takeAll`: what can happen next, and a whole schedule
* `Pool.outcomes`, `Pool.Finished`: how the rows ended, and that all of them did
* `uploadPooled`: the upload of all articles after a schedule
-/

namespace PageMerge.Upload

open PageMerge.Wiki (Article WikiAccess)

/-- The row has ended. -/
def RowProgress.isDone : RowProgress → Bool
  | .done _ => true
  | _ => false

/-- What became of a row so far. -/
inductive Slot where
  /-- No worker has taken the row. -/
  | waiting
  /-- A worker took the row after the run was cancelled, or the program stopped in one of its
  calls. -/
  | skipped
  /-- A worker has taken the row and has come so far with it. -/
  | started (progress : RowProgress)
  deriving DecidableEq, Repr

/-- How a row ended, if it has. -/
def Slot.outcome? : Slot → Option Outcome
  | .skipped => some .notAttempted
  | .started (.done outcome) => some outcome
  | _ => none

/-- Rows that are uploaded at the same time. -/
structure Pool (σ : Type) where
  wiki : σ
  /-- The run was cancelled. -/
  cancelled : Bool
  /-- The number of rows whose upload has ended. -/
  ended : Nat
  rows : List (Article × Slot)

/-- What can happen next. -/
inductive Move where
  | cancel
  /-- A worker takes the row of an index. -/
  | start (row : Nat)
  /-- The worker of a row makes its next call. -/
  | advance (row : Nat)
  deriving DecidableEq, Repr

namespace Pool

variable {σ : Type}

/-- A pool before any row is taken. -/
def opened (wiki : σ) (articles : List Article) : Pool σ :=
  ⟨wiki, false, 0, articles.map fun article => (article, .waiting)⟩

/-- A worker takes a row. -/
def start (row : Nat) (pool : Pool σ) : Pool σ :=
  match pool.rows[row]? with
  | some (article, .waiting) =>
    let slot := if pool.cancelled then .skipped else .started .pending
    { pool with rows := pool.rows.set row (article, slot) }
  | _ => pool

/-- The worker of a row makes its next call, and reports the progress when that was the last one. -/
def advance (client : WikiAccess σ) (plan : Plan) (row : Nat) (pool : Pool σ) :
    Result (Pool σ) Unit :=
  match pool.rows[row]? with
  | some (article, .started progress) =>
    if progress.isDone then ⟨(), pool, []⟩
    else
      let result := (progress.next client article plan).run pool.wiki
      let ended := if result.value.isDone then pool.ended + 1 else pool.ended
      let notice := if result.value.isDone then [.progress ended pool.rows.length] else []
      ⟨(), { pool with
          wiki := result.state, ended
          rows := pool.rows.set row (article, .started result.value) }, result.events ++ notice⟩
  | _ => ⟨(), pool, []⟩

/-- Where the program stops in the next call of a row. No worker goes on with this row. -/
def advanceStop? (client : WikiAccess σ) (plan : Plan) (row : Nat) (pool : Pool σ) :
    Option (Stop (Pool σ)) :=
  match pool.rows[row]? with
  | some (article, .started progress) =>
    ((progress.next client article plan).stop? pool.wiki).map fun stop =>
      ⟨stop.message,
        { pool with wiki := stop.state, rows := pool.rows.set row (article, .skipped) },
        stop.events⟩
  | _ => none

/-- The next thing that happens. -/
def take (client : WikiAccess σ) (plan : Plan) : Move → Activity (Pool σ) Unit
  | .cancel => Activity.silent fun pool => ((), { pool with cancelled := true })
  | .start row => Activity.silent fun pool => ((), pool.start row)
  | .advance row => ⟨fun pool => pool.advance client plan row,
      fun pool => pool.advanceStop? client plan row⟩

/-- What happens, one after the other, also after a call in which the program stops. -/
def takeAll (client : WikiAccess σ) (plan : Plan) : List Move → Activity (Pool σ) Unit
  | [] => pure ()
  | move :: moves => (take client plan move).thenAnyway (takeAll client plan moves)

/-- How the rows ended that have, in the order of the articles. -/
def outcomes (pool : Pool σ) : List RowOutcome :=
  pool.rows.filterMap fun (article, slot) => slot.outcome?.map (outcomeOf article)

/-- Every row has ended. -/
def Finished (pool : Pool σ) : Prop := ∀ entry ∈ pool.rows, entry.2.outcome?.isSome

instance (pool : Pool σ) : Decidable pool.Finished :=
  inferInstanceAs (Decidable (∀ entry ∈ pool.rows, entry.2.outcome?.isSome))

end Pool

/-- Moves that end every row that has not ended yet. -/
def finishing (count : Nat) : List Move :=
  (List.range count).flatMap fun row => [.start row, .advance row, .advance row]

/-- Uploads all articles by a pool: first after a schedule, and what is left row by row. -/
def uploadPooled {σ : Type} (client : WikiAccess σ) (plan : Plan) (moves : List Move)
    (articles : List Article) : Activity σ (List RowOutcome) :=
  let uploads := Pool.takeAll client plan (moves ++ finishing articles.length)
  { run := fun wiki =>
      let result := uploads.run (Pool.opened wiki articles)
      ⟨result.state.outcomes, result.state.wiki, result.events⟩
    stop? := fun wiki => (uploads.stop? (Pool.opened wiki articles)).map fun stop =>
      ⟨stop.message, stop.state.wiki, stop.events⟩ }

end PageMerge.Upload
