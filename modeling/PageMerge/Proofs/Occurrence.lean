import Mathlib.Algebra.BigOperators.Group.Finset.Basic
import Mathlib.Algebra.GroupWithZero.Nat

/-!
# Values in the order of their first occurrences

What is listed once for each value, like repeated identifiers or titles, is listed in the order in
which the values first occur. Both ways to leave out what is listed already, before or after the
values were selected, come to this order.

## Main definitions

* `FirstOccurrences l p listed`: the values in `l` that satisfy `p`, listed in this order

## Main results

* `firstOccurrences_eraseDups_filter`, `firstOccurrences_filter_eraseDups`: lists in this order
* `FirstOccurrences.sum_count`: how many elements repeat an earlier one
-/

namespace PageMerge

variable {α : Type} [DecidableEq α]

/-- The values of a list that satisfy a condition, each of them once, in the order in which they
first occur in the list. -/
structure FirstOccurrences (l : List α) (p : α → Prop) (listed : List α) : Prop where
  mem_iff : ∀ a, a ∈ listed ↔ a ∈ l ∧ p a
  ordered : listed.Pairwise fun a b => l.idxOf a < l.idxOf b

namespace FirstOccurrences

variable {l listed : List α} {p : α → Prop}

theorem nodup (h : FirstOccurrences l p listed) : listed.Nodup :=
  h.ordered.imp fun hlt heq => absurd (congrArg l.idxOf heq) (Nat.ne_of_lt hlt)

/-- Nothing is listed exactly if no value satisfies the condition. -/
theorem eq_nil_iff (h : FirstOccurrences l p listed) : listed = [] ↔ ∀ a ∈ l, ¬p a := by
  rw [List.eq_nil_iff_forall_not_mem]
  refine forall_congr' fun a => ?_
  rw [h.mem_iff, not_and]

/-- Every element of a list is the first one with its value, or one of those that are counted beyond
the first one of a repeated value. -/
theorem sum_count {repeated : List α} (h : FirstOccurrences l (1 < l.count ·) repeated) :
    (repeated.map fun a => l.count a - 1).sum + l.toFinset.card = l.length := by
  have hsubset : repeated.toFinset ⊆ l.toFinset := by
    intro a ha
    rw [List.mem_toFinset] at ha ⊢
    exact ((h.mem_iff a).mp ha).1
  -- A value that occurs once has no element beyond the first one.
  have honce : ∀ a ∈ l.toFinset, a ∉ repeated.toFinset → l.count a - 1 = 0 := by
    intro a ha hnot
    rw [List.mem_toFinset] at ha hnot
    have hle : ¬1 < l.count a := fun hlt => hnot ((h.mem_iff a).mpr ⟨ha, hlt⟩)
    omega
  have hfirst : ∀ a ∈ l.toFinset, l.count a - 1 + 1 = l.count a := by
    intro a ha
    have hpos : 0 < l.count a := List.count_pos_iff.mpr (List.mem_toFinset.mp ha)
    omega
  calc (repeated.map fun a => l.count a - 1).sum + l.toFinset.card
      = (∑ a ∈ l.toFinset, (l.count a - 1)) + l.toFinset.card := by
        rw [← List.sum_toFinset _ h.nodup, Finset.sum_subset hsubset honce]
    _ = ∑ a ∈ l.toFinset, (l.count a - 1 + 1) := by
        rw [Finset.sum_add_distrib, Finset.card_eq_sum_ones]
    _ = ∑ a ∈ l.toFinset, l.count a := Finset.sum_congr rfl hfirst
    _ = l.length := List.sum_toFinset_count_eq_length l

end FirstOccurrences

/-! ### Lists without repetitions -/

section Lists

variable (l : List α) (p : α → Bool)

/-- Elements that are left out do not change which of two others comes first. -/
theorem idxOf_lt_of_filter {a b : α} (ha : p a = true) (hb : p b = true)
    (h : (l.filter p).idxOf a < (l.filter p).idxOf b) : l.idxOf a < l.idxOf b := by
  induction l with
  | nil => exact h
  | cons c l ih =>
    by_cases hca : c = a
    · subst hca
      have hne : c ≠ b := by
        rintro rfl
        exact Nat.lt_irrefl _ h
      rw [List.idxOf_cons_self, List.idxOf_cons_ne l hne]
      exact Nat.succ_pos _
    by_cases hcb : c = b
    · subst hcb
      rw [List.filter_cons_of_pos hb, List.idxOf_cons_self] at h
      exact absurd h (Nat.not_lt_zero _)
    · rw [List.idxOf_cons_ne l hca, List.idxOf_cons_ne l hcb]
      refine Nat.succ_lt_succ (ih ?_)
      by_cases hc : p c = true
      · rw [List.filter_cons_of_pos hc, List.idxOf_cons_ne _ hca, List.idxOf_cons_ne _ hcb] at h
        exact Nat.lt_of_succ_lt_succ h
      · rwa [List.filter_cons_of_neg hc] at h

/-- Without the repetitions, the elements are in the order of their first occurrences. -/
theorem pairwise_eraseDups : ∀ l : List α,
    l.eraseDups.Pairwise fun a b => l.idxOf a < l.idxOf b
  | [] => by simp
  | a :: l => by
    have : (l.filter fun b => !b == a).length < l.length + 1 :=
      Nat.lt_succ_of_le (List.length_filter_le ..)
    have hne : ∀ b ∈ (l.filter fun b => !b == a).eraseDups, a ≠ b := by
      rintro b hb rfl
      simp at hb
    rw [List.eraseDups_cons, List.pairwise_cons]
    constructor
    · intro b hb
      rw [List.idxOf_cons_self, List.idxOf_cons_ne l (hne b hb)]
      exact Nat.succ_pos _
    · -- The other values keep the order that they have without the first one.
      refine (pairwise_eraseDups _).imp_of_mem fun {b c} hb hc hlt => ?_
      rw [List.idxOf_cons_ne l (hne b hb), List.idxOf_cons_ne l (hne c hc)]
      refine Nat.succ_lt_succ (idxOf_lt_of_filter l _ ?_ ?_ hlt)
      · simpa using (hne b hb).symm
      · simpa using (hne c hc).symm
  termination_by l => l.length

theorem firstOccurrences_filter_eraseDups :
    FirstOccurrences l (p · = true) (l.eraseDups.filter p) where
  mem_iff a := by rw [List.mem_filter, List.mem_eraseDups]
  ordered := (pairwise_eraseDups l).filter p

theorem firstOccurrences_eraseDups_filter :
    FirstOccurrences l (p · = true) (l.filter p).eraseDups where
  mem_iff a := by rw [List.mem_eraseDups, List.mem_filter]
  ordered := by
    refine (pairwise_eraseDups (l.filter p)).imp_of_mem fun {a b} ha hb hlt => ?_
    rw [List.mem_eraseDups, List.mem_filter] at ha hb
    exact idxOf_lt_of_filter l p ha.2 hb.2 hlt

end Lists

end PageMerge
