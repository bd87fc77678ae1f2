import Mathlib.Data.List.Nodup
import PageMerge.Proofs.Upload.Row
import PageMerge.Upload.Pool

/-!
# Rows of a pool do not disturb each other

Rows with different titles write different pages, and no row reads a page that another one writes.
So every row of a pool stays on course for the outcome that was decided before the pool was opened,
in whatever order the calls come.

## Main definitions

* `Slot.OnCourse`: `OnCourse` for a row that a worker may have taken
* `Pool.Inv`: all rows are on course, and nothing else was touched

## Main results

* `Pool.take_cases`: what a move can do
* `Pool.Inv.take`, `Pool.Inv.takeAll`: a move keeps the invariant, and so does a schedule
-/

namespace PageMerge.Upload

open PageMerge.Wiki (Article MemoryPage MemoryWiki PageKey)
open PageMerge.Wiki.MemoryWiki (Touches)

/-! ### Moves -/

namespace Pool

/-- What a move can do: cancel the run, take a row that waits, make the next call of a row that was
taken, or nothing. -/
theorem take_cases {σ : Type} (client : Wiki.WikiAccess σ) (plan : Plan) (move : Move)
    (pool : Pool σ) :
    (move = .cancel ∧
      ((take client plan move).run pool).state = { pool with cancelled := true }) ∨
    (∃ row article, pool.rows[row]? = some (article, .waiting) ∧
      ((take client plan move).run pool).state = { pool with
        rows := pool.rows.set row
          (article, if pool.cancelled then .skipped else .started .pending) }) ∨
    (∃ row article progress ended, pool.rows[row]? = some (article, .started progress) ∧
      ((take client plan move).run pool).state = { pool with
        wiki := ((progress.next client article plan).run pool.wiki).state
        ended := ended
        rows := pool.rows.set row
          (article, .started ((progress.next client article plan).run pool.wiki).value) }) ∨
    ((take client plan move).run pool).state = pool := by
  cases move with
  | cancel => exact .inl ⟨rfl, rfl⟩
  | start row =>
    simp only [take, Activity.run_silent, start]
    split
    · rename_i article hrow
      exact .inr (.inl ⟨row, article, hrow, rfl⟩)
    · exact .inr (.inr (.inr rfl))
  | advance row =>
    simp only [take, advance]
    split
    · rename_i article progress hrow
      split
      · exact .inr (.inr (.inr rfl))
      · exact .inr (.inr (.inl ⟨row, article, progress, _, hrow, rfl⟩))
    · exact .inr (.inr (.inr rfl))

section Rows

variable {rows : List (Article × Slot)} {row : Nat} {article : Article} {slot : Slot}

/-- A row that goes on stays the row of its article. -/
theorem articles_set (hrow : rows[row]? = some (article, slot)) (next : Slot) :
    (rows.set row (article, next)).map Prod.fst = rows.map Prod.fst := by
  rw [List.map_set]
  apply List.ext_getElem?
  intro i
  rw [List.getElem?_set, List.getElem?_map]
  split
  · rename_i heq
    subst heq
    rw [hrow, List.length_map, if_pos (List.getElem?_eq_some_iff.mp hrow).1]
    rfl
  · rfl

/-- A row either is the one that went on, or is where it was. -/
theorem getElem?_set_cases (hrow : rows[row]? = some (article, slot)) {next : Slot} {i : Nat}
    {a : Article} {s : Slot} (hi : (rows.set row (article, next))[i]? = some (a, s)) :
    (i = row ∧ a = article ∧ s = next) ∨ (i ≠ row ∧ rows[i]? = some (a, s)) := by
  have hlt : row < rows.length := (List.getElem?_eq_some_iff.mp hrow).1
  by_cases heq : row = i
  · subst heq
    rw [List.getElem?_set_self hlt] at hi
    obtain ⟨rfl, rfl⟩ := Prod.mk.inj (Option.some.inj hi)
    exact .inl ⟨rfl, rfl, rfl⟩
  · rw [List.getElem?_set_ne heq] at hi
    exact .inr ⟨Ne.symm heq, hi⟩

end Rows

end Pool

/-! ### The invariant -/

/-- A row that a worker may have taken is on course: its page is as it was as long as nobody has
taken the row. -/
def Slot.OnCourse (origin : MemoryWiki) (plan : Plan) (article : Article)
    (page : Option MemoryPage) : Slot → Prop
  | .waiting => page = origin.page? (plan.keyOf article)
  | .skipped => page = origin.page? (plan.keyOf article)
  | .started progress => Upload.OnCourse origin plan article page progress

/-- No call was made for the row. -/
def Slot.Untouched (slot : Slot) : Prop := slot = .waiting ∨ slot = .skipped

/-- The pool was opened for the articles with the wiki `origin`: each row is on course, what belongs
to no row is as it was, and no call was made for a row that nobody attempted. -/
structure Pool.Inv (origin : MemoryWiki) (plan : Plan) (articles : List Article)
    (pool : Pool MemoryWiki) : Prop where
  articles_eq : pool.rows.map Prod.fst = articles
  failures : pool.wiki.failures = origin.failures
  course : ∀ (row : Nat) (article : Article) (slot : Slot),
    pool.rows[row]? = some (article, slot) →
      slot.OnCourse origin plan article (pool.wiki.page? (plan.keyOf article))
  others : ∀ key, (∀ article ∈ articles, key ≠ plan.keyOf article) →
    pool.wiki.page? key = origin.page? key
  calls : ∃ made, pool.wiki.calls = origin.calls ++ made ∧
    ∀ (row : Nat) (article : Article) (slot : Slot),
      pool.rows[row]? = some (article, slot) → slot.Untouched →
        ∀ call ∈ made, call.title? ≠ some article.title
  attempted : pool.cancelled = false →
    ∀ (row : Nat) (article : Article) (slot : Slot),
      pool.rows[row]? = some (article, slot) → slot ≠ .skipped

namespace Pool.Inv

variable {origin : MemoryWiki} {plan : Plan} {articles : List Article} {pool : Pool MemoryWiki}

/-- A pool that was just opened. -/
theorem opened (origin : MemoryWiki) (plan : Plan) (articles : List Article) :
    Pool.Inv origin plan articles (Pool.opened origin articles) := by
  have hslot : ∀ (row : Nat) (article : Article) (slot : Slot),
      (Pool.opened origin articles).rows[row]? = some (article, slot) → slot = .waiting := by
    intro row article slot hrow
    simp only [Pool.opened, List.getElem?_map, Option.map_eq_some_iff, Prod.mk.injEq] at hrow
    obtain ⟨_, _, _, hwaiting⟩ := hrow
    exact hwaiting.symm
  refine ⟨?_, rfl, ?_, fun _ _ => rfl, ⟨[], by simp [Pool.opened], by simp⟩, ?_⟩
  · simp [Pool.opened, Function.comp_def]
  · intro row article slot hrow
    obtain rfl := hslot row article slot hrow
    rfl
  · intro _ row article slot hrow
    rw [hslot row article slot hrow]
    simp

/-- Rows of different indices have different titles. -/
theorem title_ne (h : pool.Inv origin plan articles) (htitles : (articles.map Article.title).Nodup)
    {i j : Nat} {a b : Article} {s t : Slot} (hi : pool.rows[i]? = some (a, s))
    (hj : pool.rows[j]? = some (b, t)) (hne : i ≠ j) : b.title ≠ a.title := by
  intro heq
  have hat : ∀ {k : Nat} {c : Article} {u : Slot}, pool.rows[k]? = some (c, u) →
      (articles.map Article.title)[k]? = some c.title := by
    intro k c u hk
    simp [← h.articles_eq, hk]
  have hlt : i < (articles.map Article.title).length :=
    (List.getElem?_eq_some_iff.mp (hat hi)).1
  exact hne ((List.getElem?_inj hlt htitles).mp ((hat hi).trans (heq ▸ (hat hj).symm)))

/-- A row goes on, and the wiki with it, but only where the page of the row is concerned. -/
theorem set (h : pool.Inv origin plan articles) (htitles : (articles.map Article.title).Nodup)
    {row ended : Nat} {article : Article} {slot next : Slot} {wiki : MemoryWiki}
    (hrow : pool.rows[row]? = some (article, slot))
    (htouch : Touches (plan.keyOf article) pool.wiki wiki)
    (hcourse : next.OnCourse origin plan article (wiki.page? (plan.keyOf article)))
    (hskip : pool.cancelled = false → next ≠ .skipped)
    (huntouched : next.Untouched → slot.Untouched ∧ wiki = pool.wiki) :
    Pool.Inv origin plan articles
      { pool with wiki := wiki, ended := ended, rows := pool.rows.set row (article, next) } := by
  refine ⟨?_, htouch.failures.trans h.failures, ?_, ?_, ?_, ?_⟩
  · rw [← h.articles_eq]
    exact Pool.articles_set hrow next
  -- The pages of other rows have other titles, and are left as they were.
  · intro i a s hi
    rcases Pool.getElem?_set_cases hrow hi with ⟨rfl, rfl, rfl⟩ | ⟨hne, hi⟩
    · exact hcourse
    · have hkey : plan.keyOf a ≠ plan.keyOf article := fun heq =>
        h.title_ne htitles hrow hi (Ne.symm hne) (congrArg PageKey.title heq)
      rw [htouch.page? _ hkey]
      exact h.course i a s hi
  · intro key hkey
    have hmem : article ∈ articles := by
      rw [← h.articles_eq]
      exact List.mem_map_of_mem (List.mem_of_getElem? hrow)
    rw [htouch.page? key (hkey article hmem)]
    exact h.others key hkey
  -- The calls since then are about the title of the row, and there are none if nobody attempts it.
  · obtain ⟨made, hmade, hfree⟩ := h.calls
    obtain ⟨more, hmore, habout⟩ := htouch.calls
    refine ⟨made ++ more, by rw [hmore, hmade, List.append_assoc], ?_⟩
    intro i a s hi huntouched' call hcall
    rcases Pool.getElem?_set_cases hrow hi with ⟨rfl, rfl, rfl⟩ | ⟨hne, hi⟩
    · obtain ⟨hbefore, hwiki⟩ := huntouched huntouched'
      have hnone : more = [] := by
        rw [hwiki] at hmore
        exact List.self_eq_append_right.mp hmore
      rw [hnone, List.append_nil] at hcall
      exact hfree i a slot hrow hbefore call hcall
    · rcases List.mem_append.mp hcall with hcall | hcall
      · exact hfree i a s hi huntouched' call hcall
      · rw [habout call hcall]
        intro heq
        exact h.title_ne htitles hrow hi (Ne.symm hne) (Option.some.inj heq).symm
  · intro hcancelled i a s hi
    rcases Pool.getElem?_set_cases hrow hi with ⟨rfl, rfl, rfl⟩ | ⟨_, hi⟩
    · exact hskip hcancelled
    · exact h.attempted hcancelled i a s hi

/-- A move keeps the invariant. -/
theorem take (h : pool.Inv origin plan articles) (htitles : (articles.map Article.title).Nodup)
    (move : Move) :
    Pool.Inv origin plan articles ((Pool.take MemoryWiki.client plan move).run pool).state := by
  rcases Pool.take_cases MemoryWiki.client plan move pool with
    ⟨_, hstate⟩ | ⟨row, article, hrow, hstate⟩ | ⟨row, article, progress, ended, hrow, hstate⟩ |
      hstate
  · rw [hstate]
    exact ⟨h.articles_eq, h.failures, h.course, h.others, h.calls, fun hc => by simp at hc⟩
  · rw [hstate]
    refine h.set htitles hrow (Touches.refl ..) ?_ ?_ fun _ => ⟨.inl rfl, rfl⟩
    · have hwaiting := h.course row article .waiting hrow
      split <;> exact hwaiting
    · intro hcancelled
      simp [hcancelled]
  · rw [hstate]
    refine h.set htitles hrow (touches_next article plan pool.wiki progress) ?_ (by simp) ?_
    · exact OnCourse.next h.failures (h.course row article _ hrow)
    · intro huntouched
      rcases huntouched with heq | heq <;> cases heq
  · rw [hstate]
    exact h

/-- A schedule keeps the invariant. -/
theorem takeAll (htitles : (articles.map Article.title).Nodup) (moves : List Move) :
    ∀ {pool : Pool MemoryWiki}, pool.Inv origin plan articles →
      Pool.Inv origin plan articles
        ((Pool.takeAll MemoryWiki.client plan moves).run pool).state := by
  induction moves with
  | nil => exact id
  | cons move moves ih => exact fun h => ih (h.take htitles move)

end Pool.Inv

end PageMerge.Upload
