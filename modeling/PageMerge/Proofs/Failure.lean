/-!
# Computations that can fail

What a result says about the steps that it was made in.

## Main results

* `exists_of_bind_eq_ok`: one step after the other
* `eq_ok_of_mapError`, `exists_of_mapError`, `mapError_bind`: errors that become others
-/

namespace PageMerge

variable {α β ε ε' : Type}

/-- Steps that succeed one after the other succeed each. -/
theorem exists_of_bind_eq_ok {first : Except ε α} {next : α → Except ε β} {b : β}
    (h : (first >>= next) = .ok b) : ∃ a, first = .ok a ∧ next a = .ok b := by
  cases first with
  | error e => cases h
  | ok a => exact ⟨a, rfl, h⟩

/-- A step that succeeded is followed by the next one. -/
theorem ok_bind (a : α) (next : α → Except ε β) : (Except.ok a >>= next) = next a := rfl

section Wrapping

variable {wrap : ε → ε'} {result : Except ε α}

theorem eq_ok_of_mapError {a : α} (h : .ok a = result.mapError wrap) : result = .ok a := by
  cases result with
  | ok b =>
    cases h
    rfl
  | error e => cases h

theorem exists_of_mapError {e : ε'} (h : .error e = result.mapError wrap) :
    ∃ cause, e = wrap cause ∧ result = .error cause := by
  cases result with
  | ok b => cases h
  | error cause =>
    cases h
    exact ⟨cause, rfl, rfl⟩

theorem mapError_bind (next : α → Except ε β) :
    (result >>= next).mapError wrap = result.mapError wrap >>= fun a => (next a).mapError wrap := by
  cases result <;> rfl

theorem exists_of_map_eq_ok {f : α → β} {b : β} (h : result.map f = .ok b) :
    ∃ a, result = .ok a ∧ f a = b := by
  cases result with
  | ok a => exact ⟨a, rfl, Except.ok.inj h⟩
  | error cause => cases h

end Wrapping

end PageMerge
