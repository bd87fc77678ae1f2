import Mathlib.Data.List.Defs

/-!
# Assigning a value to a key

Pairs of keys and values in which a key has the value that was given last, as the pages of a wiki
and the kept templates are stored.

## Main results

* `lookup_assigned`: the value of every key after one was assigned
-/

namespace PageMerge

variable {κ υ : Type} [BEq κ] [LawfulBEq κ]

/-- What is taken away for one key is not seen by another. -/
theorem lookup_filter_ne {key other : κ} (h : other ≠ key) (entries : List (κ × υ)) :
    (entries.filter fun entry => entry.1 != key).lookup other = entries.lookup other := by
  induction entries with
  | nil => rfl
  | cons entry rest ih =>
    obtain ⟨at_, value⟩ := entry
    by_cases hat : at_ = key
    · subst hat
      have hne : (other == at_) = false := beq_false_of_ne h
      rw [List.filter_cons_of_neg (by simp), ih, List.lookup_cons, hne]
    · rw [List.filter_cons_of_pos (by simpa using hat), List.lookup_cons, List.lookup_cons, ih]

/-- A key has the value that was assigned last; every other key keeps its value. -/
theorem lookup_assigned [DecidableEq κ] (key other : κ) (value : υ) (entries : List (κ × υ)) :
    ((key, value) :: entries.filter fun entry => entry.1 != key).lookup other =
      if other = key then some value else entries.lookup other := by
  by_cases h : other = key
  · subst h
    simp
  · rw [List.lookup_cons, beq_false_of_ne h, if_neg h]
    exact lookup_filter_ne h entries

end PageMerge
