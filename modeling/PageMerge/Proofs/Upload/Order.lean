import PageMerge.Proofs.Upload.Pool

/-!
# An outcome for each article

However the articles are uploaded, the outcomes stand in the order of the articles, and none of them
is left out. For a pool this is so because every row needs at most three moves, and no move of
another row undoes one of them.

## Main definitions

* `unfinished`: the items whose outcome asks for another attempt
* `attemptable`: how many articles are attempted before a cancellation
* `Pool.remaining`: the number of moves that a row needs until it has ended
* `Way`: an upload of one article after the other, or by a pool

## Main results

* `run_uploadFrom_of_cancel`: a cancelled upload is one of the first articles that nothing cancels
* `Pool.outcomes_of_finished`: a pool whose rows have ended has an outcome for each
* `Pool.finished_takeAll_finishing`: all rows have ended after the moves that end them
* `rows_uploadBatch`, `rows_uploadPooled`: the rows of the outcomes
-/

namespace PageMerge.Upload

open PageMerge.Wiki (Article WikiAccess)

variable {σ : Type}

/-- The rows that outcomes are about: identifiers and titles. -/
def rowsOf (outcomes : List RowOutcome) : List (String × String) :=
  outcomes.map fun row => (row.rowId, row.title)

/-! ### Items that need another attempt -/

section Unfinished

variable {α β : Type}

/-- The items whose outcome, at the same place, asks for another attempt. -/
def unfinished (items : List α) (outcomes : List RowOutcome) : List α :=
  ((items.zip outcomes).filter fun (_, row) => row.outcome.needsRetry).map Prod.fst

@[simp] theorem unfinished_cons (item : α) (items : List α) (row : RowOutcome)
    (outcomes : List RowOutcome) :
    unfinished (item :: items) (row :: outcomes) =
      if row.outcome.needsRetry then item :: unfinished items outcomes
      else unfinished items outcomes := by
  simp only [unfinished, List.zip_cons_cons, List.filter_cons]
  split <;> rfl

/-- The items that need another attempt are among the items, in their order. -/
theorem unfinished_sublist (items : List α) : ∀ outcomes : List RowOutcome,
    (unfinished items outcomes).Sublist items := by
  induction items with
  | nil => exact fun _ => List.Sublist.refl []
  | cons item items ih =>
    intro outcomes
    cases outcomes with
    | nil => exact List.nil_sublist _
    | cons row outcomes =>
      rw [unfinished_cons]
      split
      · exact (ih outcomes).cons_cons item
      · exact (ih outcomes).cons item

/-- What is made of items needs another attempt where they do. -/
theorem unfinished_map (f : α → β) (items : List α) : ∀ outcomes : List RowOutcome,
    unfinished (items.map f) outcomes = (unfinished items outcomes).map f := by
  induction items with
  | nil => exact fun _ => rfl
  | cons item items ih =>
    intro outcomes
    cases outcomes with
    | nil => rfl
    | cons row outcomes =>
      rw [List.map_cons, unfinished_cons, unfinished_cons, ih]
      split <;> rfl

/-- Items with as many outcomes, and others after them. -/
theorem unfinished_append {first : List α} {rows : List RowOutcome}
    (hlength : first.length = rows.length) (rest : List α) (others : List RowOutcome) :
    unfinished (first ++ rest) (rows ++ others) =
      unfinished first rows ++ unfinished rest others := by
  rw [unfinished, List.zip_append hlength, List.filter_append, List.map_append]
  rfl

/-- If the outcomes are decided by the items, so are the items that need another attempt. -/
theorem mem_unfinished_map_iff (decided : α → RowOutcome) (items : List α) (item : α) :
    item ∈ unfinished items (items.map decided) ↔
      item ∈ items ∧ (decided item).outcome.needsRetry = true := by
  induction items with
  | nil => simp [unfinished]
  | cons other items ih =>
    rw [List.map_cons, unfinished_cons]
    split
    · rename_i hretry
      rw [List.mem_cons, List.mem_cons, ih]
      constructor
      · rintro (rfl | ⟨hmem, hitem⟩)
        · exact ⟨.inl rfl, hretry⟩
        · exact ⟨.inr hmem, hitem⟩
      · rintro ⟨rfl | hmem, hitem⟩
        · exact .inl rfl
        · exact .inr ⟨hmem, hitem⟩
    · rename_i hdone
      rw [List.mem_cons, ih]
      constructor
      · exact fun ⟨hmem, hitem⟩ => ⟨.inr hmem, hitem⟩
      · rintro ⟨rfl | hmem, hitem⟩
        · exact absurd hitem hdone
        · exact ⟨hmem, hitem⟩

end Unfinished

/-! ### One after the other -/

/-- What every row brings about between the states before and after it, a whole upload does. -/
theorem rel_uploadFrom {R : σ → σ → Prop} {client : WikiAccess σ} {plan : Plan}
    (hrefl : ∀ s, R s s) (htrans : ∀ {first second third}, R first second → R second third →
      R first third)
    (hrow : ∀ article s, R s ((uploadArticle client article plan).run s).state)
    (cancel : CancelAfter) (total : Nat) (articles : List Article) : ∀ (done : Nat) (s : σ),
      R s ((uploadFrom client plan cancel total done articles).run s).state := by
  induction articles with
  | nil => exact fun _ s => hrefl s
  | cons article rest ih =>
    intro done s
    rw [uploadFrom]
    split
    · exact hrefl s
    · exact htrans (hrow article s) (ih (done + 1) _)

theorem rows_uploadFrom (client : WikiAccess σ) (plan : Plan) (cancel : CancelAfter) (total : Nat)
    (articles : List Article) : ∀ (done : Nat) (s : σ),
      rowsOf ((uploadFrom client plan cancel total done articles).run s).value =
        articles.map fun article => (article.rowId, article.title) := by
  induction articles with
  | nil => exact fun _ _ => rfl
  | cons article rest ih =>
    intro done s
    rw [uploadFrom]
    split
    · rw [Activity.run_pure, rowsOf, List.map_map]
      rfl
    · exact congrArg ((article.rowId, article.title) :: ·) (ih (done + 1) _)

/-- The outcomes of an upload of one article after the other stand in the order of the articles. -/
theorem rows_uploadBatch (client : WikiAccess σ) (plan : Plan) (cancel : CancelAfter)
    (articles : List Article) (s : σ) :
    rowsOf ((uploadBatch client plan cancel articles).run s).value =
      articles.map fun article => (article.rowId, article.title) :=
  rows_uploadFrom client plan cancel articles.length articles 0 s

/-! ### Cancelled uploads -/

/-- How many of the articles that are left are attempted, if so many rows are done. -/
def attemptable (cancel : CancelAfter) (done left : Nat) : Nat :=
  match cancel with
  | none => left
  | some limit => min (limit - done) left

theorem attemptable_le (cancel : CancelAfter) (done left : Nat) :
    attemptable cancel done left ≤ left := by
  cases cancel with
  | none => exact Nat.le_refl left
  | some limit => exact Nat.min_le_right ..

theorem attemptable_of_isCancelled {cancel : CancelAfter} {done : Nat}
    (h : isCancelled cancel done = true) (left : Nat) : attemptable cancel done left = 0 := by
  cases cancel with
  | none => cases h
  | some limit =>
    have hle : limit ≤ done := of_decide_eq_true h
    rw [attemptable, Nat.sub_eq_zero_of_le hle, Nat.zero_min]

theorem attemptable_succ {cancel : CancelAfter} {done : Nat} (h : isCancelled cancel done ≠ true)
    (left : Nat) :
    attemptable cancel done (left + 1) = attemptable cancel (done + 1) left + 1 := by
  cases cancel with
  | none => rfl
  | some limit =>
    have hlt : ¬limit ≤ done := fun hle => h (decide_eq_true hle)
    simp only [attemptable]
    omega

/-- An upload that nothing cancels attempts the next article. -/
theorem uploadFrom_none_cons (client : WikiAccess σ) (plan : Plan) (total done : Nat)
    (article : Article) (rest : List Article) :
    uploadFrom client plan none total done (article :: rest) = (do
      let row ← attempt client plan done total article
      let rows ← uploadFrom client plan none total (done + 1) rest
      pure (row :: rows)) := rfl

/-- A cancelled upload is an upload of the first articles that nothing cancels; the other articles
are not attempted. -/
theorem run_uploadFrom_of_cancel (client : WikiAccess σ) (plan : Plan)
    (cancel : CancelAfter) (total : Nat) (articles : List Article) : ∀ (done : Nat) (s : σ),
      let m := attemptable cancel done articles.length
      let ran := (uploadFrom client plan none total done (articles.take m)).run s
      (uploadFrom client plan cancel total done articles).run s =
        { ran with value := ran.value ++
            (articles.drop m).map fun article => outcomeOf article .notAttempted } := by
  induction articles with
  | nil =>
    intro done s
    simp [uploadFrom]
  | cons article rest ih =>
    intro done s
    rw [uploadFrom]
    split
    -- Nothing is attempted any more.
    · rename_i hcancelled
      rw [attemptable_of_isCancelled hcancelled]
      rfl
    -- One article is attempted in either upload, and one row more is done then.
    · rename_i hcancelled
      rw [List.length_cons, attemptable_succ hcancelled]
      dsimp only
      rw [List.take_succ_cons, List.drop_succ_cons, uploadFrom_none_cons]
      simp only [Activity.run_bind, Activity.run_pure, ih, List.cons_append]

/-! ### Pools whose rows have ended -/

/-- The outcome of a row of a pool that has ended. -/
def Pool.outcomeOfEntry (entry : Article × Slot) : RowOutcome :=
  outcomeOf entry.1 (entry.2.outcome?.getD .notAttempted)

/-- A pool whose rows have ended has an outcome for each. -/
theorem Pool.outcomes_of_finished {pool : Pool σ} (hfinished : pool.Finished) :
    pool.outcomes = pool.rows.map Pool.outcomeOfEntry := by
  have hrows : ∀ rows : List (Article × Slot), (∀ entry ∈ rows, entry.2.outcome?.isSome) →
      rows.filterMap (fun entry => entry.2.outcome?.map (outcomeOf entry.1)) =
        rows.map Pool.outcomeOfEntry := by
    intro rows
    induction rows with
    | nil => exact fun _ => rfl
    | cons entry rows ih =>
      intro hended
      obtain ⟨outcome, houtcome⟩ :=
        Option.isSome_iff_exists.mp (hended entry (List.mem_cons_self ..))
      rw [List.filterMap_cons, List.map_cons,
        ih fun other hother => hended other (List.mem_cons_of_mem _ hother)]
      simp [Pool.outcomeOfEntry, houtcome]
  exact hrows pool.rows hfinished

/-- The outcomes of a pool that has ended are about its articles. -/
theorem Pool.rowsOf_outcomes {pool : Pool σ} (hfinished : pool.Finished) :
    rowsOf pool.outcomes =
      (pool.rows.map Prod.fst).map fun article => (article.rowId, article.title) := by
  rw [Pool.outcomes_of_finished hfinished, rowsOf, List.map_map, List.map_map]
  rfl

/-! ### Moves until a row has ended -/

/-- The number of calls until the row has ended. -/
def RowProgress.remaining : RowProgress → Nat
  | .pending => 2
  | .existenceChecked _ => 1
  | .done _ => 0

/-- The number of moves until the row has ended. -/
def Slot.remaining : Slot → Nat
  | .waiting => 3
  | .skipped => 0
  | .started progress => progress.remaining

/-- The number of moves that the row of an index needs until it has ended. -/
def Pool.remaining (pool : Pool σ) (row : Nat) : Nat :=
  (pool.rows[row]?.map fun entry => entry.2.remaining).getD 0

/-- Each call brings a row nearer to its end. -/
theorem RowProgress.remaining_next (client : WikiAccess σ) (article : Article) (plan : Plan)
    (progress : RowProgress) (s : σ) :
    ((progress.next client article plan).run s).value.remaining ≤ progress.remaining - 1 := by
  cases progress with
  | pending =>
    simp only [RowProgress.next, Activity.run_bind]
    cases ((lookUp client article plan).run s).value <;> simp [RowProgress.remaining]
  | existenceChecked found => exact Nat.le_refl 0
  | done outcome => exact Nat.le_refl 0

/-- A row has ended exactly if it needs no move. -/
theorem Slot.isSome_outcome?_iff (slot : Slot) : slot.outcome?.isSome ↔ slot.remaining = 0 := by
  rcases slot with _ | _ | progress
  · simp [Slot.outcome?, Slot.remaining]
  · simp [Slot.outcome?, Slot.remaining]
  · cases progress <;> simp [Slot.outcome?, Slot.remaining, RowProgress.remaining]

namespace Pool

/-- A pool is finished exactly if no row needs a move. -/
theorem finished_iff (pool : Pool σ) : pool.Finished ↔ ∀ row, pool.remaining row = 0 := by
  constructor
  · intro h row
    rw [remaining]
    cases hrow : pool.rows[row]? with
    | none => rfl
    | some entry => exact (Slot.isSome_outcome?_iff _).mp (h entry (List.mem_of_getElem? hrow))
  · intro h entry hentry
    obtain ⟨row, hrow⟩ := List.mem_iff_getElem?.mp hentry
    have hzero := h row
    rw [remaining, hrow] at hzero
    exact (Slot.isSome_outcome?_iff _).mpr hzero

/-- A row that went on is nearer to its end, and the other rows are where they were. -/
theorem remaining_set (pool : Pool σ) {row : Nat} {article : Article} {slot next : Slot}
    (hrow : pool.rows[row]? = some (article, slot)) (wiki : σ) (ended other : Nat) :
    ({ pool with wiki, ended, rows := pool.rows.set row (article, next) } : Pool σ).remaining
      other = if other = row then next.remaining else pool.remaining other := by
  have hlt : row < pool.rows.length := (List.getElem?_eq_some_iff.mp hrow).1
  by_cases heq : other = row
  · subst heq
    rw [if_pos rfl, remaining, List.getElem?_set_self hlt]
    rfl
  · rw [if_neg heq, remaining, List.getElem?_set_ne (Ne.symm heq), remaining]

/-- No row needs more moves if one of them goes on. -/
theorem remaining_set_le (pool : Pool σ) {row : Nat} {article : Article} {slot next : Slot}
    (hrow : pool.rows[row]? = some (article, slot)) (hle : next.remaining ≤ slot.remaining)
    (wiki : σ) (ended other : Nat) :
    ({ pool with wiki, ended, rows := pool.rows.set row (article, next) } : Pool σ).remaining
      other ≤ pool.remaining other := by
  rw [pool.remaining_set hrow]
  split
  · rename_i heq
    subst heq
    rw [remaining, hrow]
    exact hle
  · exact Nat.le_refl _

section Moves

variable (client : WikiAccess σ) (plan : Plan)

/-- The number of moves that a row needs does not grow. -/
theorem remaining_take_le (move : Move) (pool : Pool σ) (row : Nat) :
    ((take client plan move).run pool).state.remaining row ≤ pool.remaining row := by
  rcases take_cases client plan move pool with
    ⟨_, hstate⟩ | ⟨i, article, hi, hstate⟩ | ⟨i, article, progress, ended, hi, hstate⟩ | hstate
  · have hsame := congrArg (remaining · row) hstate
    exact Nat.le_of_eq hsame
  · rw [hstate]
    apply pool.remaining_set_le hi
    split <;> decide
  · rw [hstate]
    apply pool.remaining_set_le hi
    exact Nat.le_trans (progress.remaining_next client article plan pool.wiki) (Nat.sub_le ..)
  · exact Nat.le_of_eq (congrArg (remaining · row) hstate)

theorem remaining_takeAll_le (moves : List Move) : ∀ (pool : Pool σ) (row : Nat),
    ((takeAll client plan moves).run pool).state.remaining row ≤ pool.remaining row := by
  induction moves with
  | nil => exact fun _ _ => Nat.le_refl _
  | cons move moves ih =>
    exact fun pool row => Nat.le_trans (ih _ row) (remaining_take_le client plan move pool row)

/-- A row that was taken needs two more moves at most. -/
theorem remaining_start (pool : Pool σ) (row : Nat) :
    ((take client plan (.start row)).run pool).state.remaining row ≤ 2 := by
  simp only [take, Activity.run_silent, start]
  split
  · rename_i article hrow
    refine Nat.le_trans (Nat.le_of_eq (pool.remaining_set hrow pool.wiki pool.ended row)) ?_
    rw [if_pos rfl]
    split <;> decide
  · rename_i hwaiting
    rw [remaining]
    cases hrow : pool.rows[row]? with
    | none => exact Nat.zero_le 2
    | some entry =>
      obtain ⟨article, slot⟩ := entry
      rcases slot with _ | _ | progress
      · exact absurd hrow (hwaiting article)
      · exact Nat.zero_le 2
      · cases progress <;> simp [Slot.remaining, RowProgress.remaining]

/-- A row that was taken comes nearer to its end with each call. -/
theorem remaining_advance (pool : Pool σ) (row : Nat) (htaken : pool.remaining row ≤ 2) :
    ((take client plan (.advance row)).run pool).state.remaining row ≤ pool.remaining row - 1 := by
  simp only [take, advance]
  split
  · rename_i article progress hrow
    have hnow : pool.remaining row = progress.remaining := by
      rw [remaining, hrow]
      rfl
    split
    · rename_i hdone
      cases progress <;> simp_all [RowProgress.isDone, RowProgress.remaining]
    · refine Nat.le_trans (Nat.le_of_eq (pool.remaining_set hrow _ _ row)) ?_
      rw [if_pos rfl, hnow]
      exact progress.remaining_next client article plan pool.wiki
  · rename_i hother
    rw [remaining] at htaken ⊢
    cases hrow : pool.rows[row]? with
    | none => exact Nat.le_refl 0
    | some entry =>
      obtain ⟨article, slot⟩ := entry
      rw [hrow] at htaken
      rcases slot with _ | _ | progress
      · exact absurd htaken (Nat.not_succ_le_self 2)
      · exact Nat.le_refl 0
      · exact absurd hrow (hother article progress)

/-- Moves and then others. -/
theorem takeAll_append (first second : List Move) : ∀ pool : Pool σ,
    ((takeAll client plan (first ++ second)).run pool).state =
      ((takeAll client plan second).run ((takeAll client plan first).run pool).state).state := by
  induction first with
  | nil => exact fun _ => rfl
  | cons move first ih => exact fun pool => ih ((take client plan move).run pool).state

/-- The moves that end rows end them. -/
theorem remaining_takeAll_flatMap (rows : List Nat) : ∀ (pool : Pool σ), ∀ row ∈ rows,
    ((takeAll client plan (rows.flatMap fun row =>
      [.start row, .advance row, .advance row])).run pool).state.remaining row = 0 := by
  induction rows with
  | nil => exact fun _ _ h => absurd h List.not_mem_nil
  | cons first rows ih =>
    intro pool row hrow
    rw [List.flatMap_cons, takeAll_append]
    rcases List.mem_cons.mp hrow with rfl | hrow
    · -- The moves of the other rows cannot undo that this one has ended.
      refine Nat.le_zero.mp (Nat.le_trans (remaining_takeAll_le client plan _ _ row) ?_)
      have hstart := remaining_start client plan pool row
      have hcheck := remaining_advance client plan _ row hstart
      have hwrite := remaining_advance client plan _ row (Nat.le_trans hcheck (by omega))
      exact Nat.le_trans hwrite (by omega)
    · exact ih _ row hrow

theorem articles_opened (wiki : σ) (articles : List Article) :
    (opened wiki articles).rows.map Prod.fst = articles := by
  rw [opened, List.map_map]
  exact List.map_id articles

/-- The articles of a pool stay what they are. -/
theorem articles_takeAll (moves : List Move) : ∀ pool : Pool σ,
    ((takeAll client plan moves).run pool).state.rows.map Prod.fst = pool.rows.map Prod.fst := by
  induction moves with
  | nil => exact fun _ => rfl
  | cons move moves ih =>
    intro pool
    refine (ih _).trans ?_
    rcases take_cases client plan move pool with
      ⟨_, hstate⟩ | ⟨_, _, hrow, hstate⟩ | ⟨_, _, _, _, hrow, hstate⟩ | hstate
    · rw [hstate]
    · rw [hstate]
      exact articles_set hrow _
    · rw [hstate]
      exact articles_set hrow _
    · rw [hstate]

/-- All rows have ended after the moves that end them. -/
theorem finished_takeAll_finishing (wiki : σ) (articles : List Article) (moves : List Move) :
    ((takeAll client plan (moves ++ finishing articles.length)).run
      (opened wiki articles)).state.Finished := by
  rw [finished_iff]
  intro row
  by_cases hrow : row < articles.length
  · rw [takeAll_append]
    exact remaining_takeAll_flatMap client plan _ _ row (List.mem_range.mpr hrow)
  · have hlength := congrArg List.length
      (articles_takeAll client plan (moves ++ finishing articles.length) (opened wiki articles))
    rw [articles_opened, List.length_map] at hlength
    rw [remaining, List.getElem?_eq_none (by omega)]
    rfl

end Moves

end Pool

/-- The outcomes of a pool stand in the order of the articles. -/
theorem rows_uploadPooled (client : WikiAccess σ) (plan : Plan) (moves : List Move)
    (articles : List Article) (s : σ) :
    rowsOf ((uploadPooled client plan moves articles).run s).value =
      articles.map fun article => (article.rowId, article.title) := by
  have hrows := Pool.rowsOf_outcomes (Pool.finished_takeAll_finishing client plan s articles moves)
  rw [Pool.articles_takeAll, Pool.articles_opened] at hrows
  exact hrows

/-! ### Either way -/

/-- A way to upload articles. -/
inductive Way where
  /-- One after the other, until the run is cancelled. -/
  | inTurn (cancel : CancelAfter)
  /-- By a pool, after a schedule. -/
  | byPool (moves : List Move)

/-- The upload of articles in this way. -/
def Way.upload (client : WikiAccess σ) (plan : Plan) : Way → List Article →
    Activity σ (List RowOutcome)
  | .inTurn cancel => uploadBatch client plan cancel
  | .byPool moves => uploadPooled client plan moves

theorem Way.rows_upload (client : WikiAccess σ) (plan : Plan) (way : Way)
    (articles : List Article) (s : σ) :
    rowsOf ((way.upload client plan articles).run s).value =
      articles.map fun article => (article.rowId, article.title) := by
  cases way with
  | inTurn cancel => exact rows_uploadBatch client plan cancel articles s
  | byPool moves => exact rows_uploadPooled client plan moves articles s

end PageMerge.Upload
