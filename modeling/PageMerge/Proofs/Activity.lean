import PageMerge.Activity

/-!
# Laws of activities

Activities form a monad, also if the program can stop in them: nothing comes after a stop, and where
a stop is caught, the message takes the place of everything that was left to do. In a steady
activity the program never stops.

## Main definitions

* `Activity.Steady`: the program does not stop

## Main results

* `Activity.caught_bind`: a stop in the first or in the second of two activities
* `Activity.onPart_bind`: two activities on the same part of a state
* `Activity.Steady.bind`: one steady activity after the other
-/

namespace PageMerge

variable {σ τ α β γ ε : Type}

@[simp] theorem Stop.after_nil (stop : Stop σ) : stop.after [] = stop := rfl

theorem Stop.after_after (first second : List Event) (stop : Stop σ) :
    (stop.after second).after first = stop.after (first ++ second) := by
  simp only [Stop.after, List.append_assoc]

namespace Activity

/-! ### One activity after the other -/

/-- Activities with the same results that stop in the same places. -/
theorem eq_of_run {first second : Activity σ α} (hrun : ∀ s, first.run s = second.run s)
    (hstop : ∀ s, first.stop? s = second.stop? s) : first = second :=
  Activity.ext (funext hrun) (funext hstop)

theorem bind_pure_eq (act : Activity σ α) : act >>= pure = act := by
  refine eq_of_run (fun s => ?_) (fun s => ?_)
  · simp only [run_bind, run_pure, List.append_nil]
  · rw [stop?_bind]
    cases act.stop? s <;> rfl

theorem pure_bind_eq (a : α) (next : α → Activity σ β) : pure a >>= next = next a := by
  refine eq_of_run (fun s => rfl) (fun s => ?_)
  rw [stop?_bind, stop?_pure]
  cases (next a).stop? s <;> simp

theorem bind_bind_eq (act : Activity σ α) (next : α → Activity σ β) (last : β → Activity σ γ) :
    act >>= next >>= last = act >>= fun a => next a >>= last := by
  refine eq_of_run (fun s => ?_) (fun s => ?_)
  · simp only [run_bind, List.append_assoc]
  -- A stop hides what comes after it, so the stops are followed from the first to the last.
  · simp only [stop?_bind, run_bind]
    cases act.stop? s with
    | some stop => rfl
    | none =>
      cases (next (act.run s).value).stop? (act.run s).state with
      | some stop => rfl
      | none => simp only [Option.map_none, Option.map_map, Function.comp_def, Stop.after_after]

instance : LawfulMonad (Activity σ) :=
  LawfulMonad.mk' _ bind_pure_eq pure_bind_eq bind_bind_eq

@[simp] theorem run_map (f : α → β) (act : Activity σ α) (s : σ) :
    (f <$> act).run s = ⟨f (act.run s).value, (act.run s).state, (act.run s).events⟩ := by
  rw [map_eq_pure_bind]
  simp only [run_bind, run_pure, List.append_nil]

theorem stop?_log_bind (entry : Log.Entry) (next : Unit → Activity σ α) (s : σ) :
    (log entry >>= next).stop? s = ((next ()).stop? s).map (Stop.after [.log entry]) := rfl

/-! ### Demands -/

@[simp] theorem run_demand (holds : Prop) [Decidable holds] (message : String) (s : σ) :
    (demand holds message).run s = ⟨(), s, []⟩ := rfl

theorem demand_of_holds {holds : Prop} [Decidable holds] (h : holds) (message : String) :
    (demand holds message : Activity σ Unit) = pure () :=
  eq_of_run (fun _ => rfl) fun _ => if_pos h

theorem demand_congr {holds other : Prop} [Decidable holds] [Decidable other]
    (h : holds ↔ other) (message : String) :
    (demand holds message : Activity σ Unit) = demand other message :=
  eq_of_run (fun _ => rfl) fun _ => by simp only [demand, h]

/-! ### Stops that are caught -/

theorem run_caught_of_none {act : Activity σ α} {s : σ} (h : act.stop? s = none) :
    act.caught.run s = ⟨.ok (act.run s).value, (act.run s).state, (act.run s).events⟩ := by
  simp only [caught, h]

theorem run_caught_of_some {act : Activity σ α} {s : σ} {stop : Stop σ}
    (h : act.stop? s = some stop) :
    act.caught.run s = ⟨.error stop.message, stop.state, stop.events⟩ := by
  simp only [caught, h]

/-- Where the first of two activities is caught, its message takes the place of the second one. -/
theorem caught_bind (act : Activity σ α) (next : α → Activity σ β) :
    (act >>= next).caught = act.caught >>= fun
      | .ok a => (next a).caught
      | .error message => pure (.error message) := by
  refine eq_of_run (fun s => ?_) (fun s => ?_)
  · rw [run_bind]
    cases hfirst : act.stop? s with
    | some stop =>
      have hboth : (act >>= next).stop? s = some stop := by rw [stop?_bind, hfirst]
      rw [run_caught_of_some hfirst, run_caught_of_some hboth]
      simp only [run_pure, List.append_nil]
    | none =>
      rw [run_caught_of_none hfirst]
      cases hsecond : (next (act.run s).value).stop? (act.run s).state with
      | some stop =>
        -- What the first one has reported stands before the stop.
        have hboth : (act >>= next).stop? s = some (stop.after (act.run s).events) := by
          rw [stop?_bind, hfirst, hsecond, Option.map_some]
        rw [run_caught_of_some hboth, run_caught_of_some hsecond]
        rfl
      | none =>
        have hboth : (act >>= next).stop? s = none := by
          rw [stop?_bind, hfirst, hsecond, Option.map_none]
        rw [run_caught_of_none hboth, run_caught_of_none hsecond]
        rfl
  -- Nothing stops on either side, whatever the first one leads to.
  · rw [stop?_bind]
    cases hcaught : (act.caught.run s).value with
    | ok a => rfl
    | error message => rfl

/-! ### Activities on a part of a state -/

theorem onPart_bind {get : τ → σ} {set : τ → σ → τ} (hget : ∀ t s, get (set t s) = s)
    (hset : ∀ t s s', set (set t s) s' = set t s') (act : Activity σ α)
    (next : α → Activity σ β) :
    (act >>= next).onPart get set = act.onPart get set >>= fun a => (next a).onPart get set := by
  refine eq_of_run (fun t => ?_) (fun t => ?_)
  · simp only [onPart, run_bind, hget, hset]
  · simp only [onPart, stop?_bind, hget]
    cases act.stop? (get t) with
    | some stop => rfl
    | none => simp only [Option.map_none, Option.map_map, Function.comp_def, Stop.after, hset]

/-! ### Steady activities -/

/-- The program does not stop in the activity. -/
def Steady (act : Activity σ α) : Prop := ∀ s, act.stop? s = none

theorem steady_pure (a : α) : (pure a : Activity σ α).Steady := fun _ => rfl

theorem steady_report (event : Event) : (report event : Activity σ Unit).Steady := fun _ => rfl

theorem steady_log (entry : Log.Entry) : (log entry : Activity σ Unit).Steady := fun _ => rfl

theorem steady_logAll (entries : List Log.Entry) : (logAll entries : Activity σ Unit).Steady :=
  fun _ => rfl

theorem steady_silent (step : σ → α × σ) : (silent step).Steady := fun _ => rfl

theorem steady_state : (state : Activity σ σ).Steady := fun _ => rfl

theorem steady_caught (act : Activity σ α) : act.caught.Steady := fun _ => rfl

namespace Steady

/-- One steady activity after the other. -/
theorem bind {act : Activity σ α} {next : α → Activity σ β} (h : act.Steady)
    (hnext : ∀ a, (next a).Steady) : (act >>= next).Steady := by
  intro s
  rw [stop?_bind, h s]
  dsimp only
  rw [hnext _ _, Option.map_none]

theorem thenAnyway {act : Activity σ Unit} {next : Activity σ α} (h : act.Steady)
    (hnext : next.Steady) : (act.thenAnyway next).Steady := by
  intro s
  simp only [Activity.thenAnyway, h s]
  exact h.bind (fun _ => hnext) s

theorem onPart {act : Activity σ α} (h : act.Steady) (get : τ → σ) (set : τ → σ → τ) :
    (act.onPart get set).Steady := by
  intro t
  simp only [Activity.onPart, h (get t), Option.map_none]

/-- There is nothing to catch in a steady activity. -/
theorem caught_eq {act : Activity σ α} (h : act.Steady) :
    act.caught = act >>= fun a => pure (.ok a) := by
  refine eq_of_run (fun s => ?_) fun s => ?_
  · simp only [run_caught_of_none (h s), run_bind, run_pure, List.append_nil]
  · exact ((h.bind fun _ => steady_pure _) s).symm

/-- Before steady activities, the program stops where it stops in the first activity. -/
theorem stop?_bind_of {next : α → Activity σ β} (h : ∀ a, (next a).Steady) (act : Activity σ α)
    (s : σ) : (act >>= next).stop? s = act.stop? s := by
  rw [stop?_bind]
  cases act.stop? s with
  | some stop => rfl
  | none => simp only [h _ _, Option.map_none]

/-- What is demanded before a steady activity decides whether the program stops. -/
theorem stop?_demand_bind {next : Unit → Activity σ α} (h : (next ()).Steady) (holds : Prop)
    [Decidable holds] (message : String) (s : σ) :
    (demand holds message >>= next).stop? s = if holds then none else some ⟨message, s, []⟩ := by
  rw [stop?_bind_of (fun () => h)]
  rfl

/-- One steady activity after the other, of which the first can fail. -/
theorem bindOk {act : ExceptT ε (Activity σ) α} {next : α → ExceptT ε (Activity σ) β}
    (h : act.run.Steady) (hnext : ∀ a, (next a).run.Steady) : (act >>= next).run.Steady := by
  rw [ExceptT.run_bind]
  refine h.bind ?_
  rintro (e | a)
  · exact steady_pure _
  · exact hnext a

end Steady

end Activity

end PageMerge
