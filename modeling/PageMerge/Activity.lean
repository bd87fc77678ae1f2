import PageMerge.Log

/-!
# Activities

An activity works on a state and reports what happens on the way: entries of the log, and how many
rows are done. It gives a value, the state after it and the events in their order.

The program can also stop in the middle of an activity, if something that it demands is not so. Then
nothing comes after the stop, neither in the state nor among the events, and there is no value.

## Main definitions

* `Event`: something that is reported
* `Activity`: a computation with a state and events
* `Result`, `Stop`: what an activity leads to, and where the program stops instead
* `Activity.demand`, `Activity.caught`: where a stop comes from, and what takes it up

## Main results

* `Activity.run_pure`, `Activity.run_bind`: the result of the basic activities
* `Activity.stop?_pure`, `Activity.stop?_bind`: where the program stops in them
-/

namespace PageMerge

/-- Something that is reported on the way. -/
inductive Event where
  | log (entry : Log.Entry)
  | progress (done total : Nat)
  deriving DecidableEq, Repr

namespace Event

/-- The entry of the log that an event is. -/
def entry? : Event → Option Log.Entry
  | .log entry => some entry
  | .progress .. => none

/-- The number of rows done, and of all rows, that an event reports. -/
def progress? : Event → Option (Nat × Nat)
  | .log _ => none
  | .progress done total => some (done, total)

end Event

/-- What an activity leads to. -/
structure Result (σ α : Type) where
  value : α
  state : σ
  events : List Event

/-- The entries of the log among the events. -/
def Result.log (result : Result σ α) : List Log.Entry := result.events.filterMap Event.entry?

/-- The progress among the events. -/
def Result.progress (result : Result σ α) : List (Nat × Nat) :=
  result.events.filterMap Event.progress?

/-- The end of the program in the middle of its work. -/
structure Stop (σ : Type) where
  /-- What the program says about it. -/
  message : String
  state : σ
  events : List Event

/-- A stop with the events before it. -/
def Stop.after (events : List Event) (stop : Stop σ) : Stop σ :=
  { stop with events := events ++ stop.events }

/-- A computation that works on a state and reports events, unless the program stops in the middle
of it. -/
@[ext]
structure Activity (σ α : Type) where
  /-- What the activity leads to from a state on, if the program does not stop. -/
  run : σ → Result σ α
  /-- Where the program stops, if it does. -/
  stop? : σ → Option (Stop σ)

namespace Activity

variable {σ τ α β : Type}

instance : Monad (Activity σ) where
  pure a := ⟨fun s => ⟨a, s, []⟩, fun _ => none⟩
  bind act next :=
    { run := fun s =>
        let first := act.run s
        let second := (next first.value).run first.state
        ⟨second.value, second.state, first.events ++ second.events⟩
      stop? := fun s =>
        match act.stop? s with
        | some stop => some stop
        | none =>
          let first := act.run s
          ((next first.value).stop? first.state).map (Stop.after first.events) }

/-- Reports events. -/
def reportAll (events : List Event) : Activity σ Unit where
  run s := ⟨(), s, events⟩
  stop? _ := none

/-- Reports an event. -/
def report (event : Event) : Activity σ Unit := reportAll [event]

/-- Writes an entry into the log. -/
def log (entry : Log.Entry) : Activity σ Unit := report (.log entry)

/-- Writes entries into the log. -/
def logAll (entries : List Log.Entry) : Activity σ Unit := reportAll (entries.map .log)

/-- A step that changes the state and reports nothing. -/
def silent (step : σ → α × σ) : Activity σ α where
  run s := ⟨(step s).1, (step s).2, []⟩
  stop? _ := none

/-- The state. -/
def state : Activity σ σ := silent fun s => (s, s)

/-- The program stops with a message unless something is so. -/
def demand (holds : Prop) [Decidable holds] (message : String) : Activity σ Unit where
  run s := ⟨(), s, []⟩
  stop? s := if holds then none else some ⟨message, s, []⟩

/-- The same activity without a stop of the program: its message takes the place of the value. -/
def caught (act : Activity σ α) : Activity σ (Except String α) where
  run s :=
    match act.stop? s with
    | some stop => ⟨.error stop.message, stop.state, stop.events⟩
    | none =>
      let result := act.run s
      ⟨.ok result.value, result.state, result.events⟩
  stop? _ := none

/-- Two activities of which the second is done in any case: if the program stops in the first one,
it does so after the second. -/
def thenAnyway (act : Activity σ Unit) (next : Activity σ α) : Activity σ α where
  run s := (act >>= fun () => next).run s
  stop? s :=
    match act.stop? s with
    | none => (act >>= fun () => next).stop? s
    | some stop =>
      let rest := next.caught.run stop.state
      some ⟨stop.message, rest.state, stop.events ++ rest.events⟩

/-- An activity on a part of the state. -/
def onPart (get : τ → σ) (set : τ → σ → τ) (act : Activity σ α) : Activity τ α where
  run t :=
    let result := act.run (get t)
    ⟨result.value, set t result.state, result.events⟩
  stop? t := (act.stop? (get t)).map fun stop => ⟨stop.message, set t stop.state, stop.events⟩

/-- The same activity with other events. -/
def mapEvents (f : Event → Event) (act : Activity σ α) : Activity σ α where
  run s :=
    let result := act.run s
    { result with events := result.events.map f }
  stop? s := (act.stop? s).map fun stop => { stop with events := stop.events.map f }

@[simp] theorem run_pure (a : α) (s : σ) : (pure a : Activity σ α).run s = ⟨a, s, []⟩ := rfl

@[simp] theorem run_bind (act : Activity σ α) (next : α → Activity σ β) (s : σ) :
    (act >>= next).run s =
      ⟨((next (act.run s).value).run (act.run s).state).value,
        ((next (act.run s).value).run (act.run s).state).state,
        (act.run s).events ++ ((next (act.run s).value).run (act.run s).state).events⟩ := rfl

@[simp] theorem stop?_pure (a : α) (s : σ) : (pure a : Activity σ α).stop? s = none := rfl

/-- The program stops in the first activity, or in what comes after it. -/
theorem stop?_bind (act : Activity σ α) (next : α → Activity σ β) (s : σ) :
    (act >>= next).stop? s =
      match act.stop? s with
      | some stop => some stop
      | none => ((next (act.run s).value).stop? (act.run s).state).map
          (Stop.after (act.run s).events) := rfl

@[simp] theorem run_thenAnyway (act : Activity σ Unit) (next : Activity σ α) (s : σ) :
    (act.thenAnyway next).run s = (act >>= fun () => next).run s := rfl

@[simp] theorem run_report (event : Event) (s : σ) : (report event).run s = ⟨(), s, [event]⟩ := rfl

@[simp] theorem run_silent (step : σ → α × σ) (s : σ) :
    (silent step).run s = ⟨(step s).1, (step s).2, []⟩ := rfl

end Activity

end PageMerge
