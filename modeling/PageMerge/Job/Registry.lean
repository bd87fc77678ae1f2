import PageMerge.Job.Status

/-!
# The registry of jobs

The status of every job that was registered, and for every job that may still be cancelled the
token of its cancellation. A job looks at its own token to learn that it was cancelled.

Applying an update takes two steps: a final status first closes the job for cancellations, and then
the status is stored.

## Main definitions

* `Token`: the cancellation of one job
* `Registry`: statuses and tokens
* `Registry.register`, `Registry.update`, `Registry.cancel`: what is done to it
* `CancelAnswer`: what became of a cancellation

## Main results

* `status?_register`, `status?_update`, `status?_cancel`: the statuses after each operation
* `isCancelled_cancel`: a cancellation reaches the token of its job and no other
-/

namespace PageMerge.Job

/-- The name of a job. -/
abbrev JobId := String

/-- The cancellation of one job, told apart from all others by a number. -/
structure Token where
  number : Nat
  deriving DecidableEq, Repr

/-- Statuses and tokens of jobs. -/
structure Registry where
  statuses : List (JobId × Status)
  /-- The token of every job that can be cancelled. -/
  tokens : List (JobId × Token)
  /-- The tokens whose jobs were cancelled. -/
  cancelled : List Token
  /-- How many tokens there are. -/
  issued : Nat

/-- What became of a cancellation. -/
inductive CancelAnswer where
  /-- The job was told to stop. -/
  | requested
  /-- The job had stopped before. -/
  | alreadyFinished
  | unknownJob
  deriving DecidableEq, Repr

/-- A list of pairs in which a name has one value, the one given last. -/
def assign (entries : List (JobId × α)) (id : JobId) (value : α) : List (JobId × α) :=
  (id, value) :: entries.filter fun (other, _) => other != id

/-- A list of pairs in which a name has no value. -/
def unassign (entries : List (JobId × α)) (id : JobId) : List (JobId × α) :=
  entries.filter fun (other, _) => other != id

namespace Registry

/-- A registry without jobs. -/
def empty : Registry := ⟨[], [], [], 0⟩

/-- The status of a job. -/
def status? (registry : Registry) (id : JobId) : Option Status := registry.statuses.lookup id

/-- The token with which a job can be cancelled. -/
def token? (registry : Registry) (id : JobId) : Option Token := registry.tokens.lookup id

/-- The job of a token was cancelled. -/
def isCancelled (registry : Registry) (token : Token) : Bool := registry.cancelled.contains token

/-- A new job, which waits for its start, with its token. -/
def register (registry : Registry) (id : JobId) : Token × Registry :=
  let token : Token := ⟨registry.issued⟩
  (token, { registry with
    statuses := assign registry.statuses id .pending
    tokens := assign registry.tokens id token
    issued := registry.issued + 1 })

/-- Closes a job for cancellations if the status is final. -/
def release (registry : Registry) (id : JobId) (status : Status) : Registry :=
  if status.hasStopped then { registry with tokens := unassign registry.tokens id } else registry

/-- Stores the status of a job. -/
def record (registry : Registry) (id : JobId) (status : Status) : Registry :=
  { registry with statuses := assign registry.statuses id status }

/-- Applies the update of a status. -/
def update (registry : Registry) (id : JobId) (status : Status) : Registry :=
  (registry.release id status).record id status

/-- Tells a job to stop. -/
def cancel (registry : Registry) (id : JobId) : CancelAnswer × Registry :=
  match registry.token? id with
  | some token => (.requested, { registry with cancelled := token :: registry.cancelled })
  | none =>
    if (registry.status? id).isSome then (.alreadyFinished, registry) else (.unknownJob, registry)

/-! ### Laws -/

/-- A name has the value that it was given last. -/
theorem lookup_assign (entries : List (JobId × α)) (id other : JobId) (value : α) :
    (assign entries id value).lookup other =
      if other = id then some value else entries.lookup other := by
  unfold assign
  by_cases h : other = id
  · simp [h]
  · have hne : (other == id) = false := by simpa using h
    simp only [List.lookup_cons, hne, h, if_false]
    induction entries with
    | nil => rfl
    | cons entry rest ih =>
      obtain ⟨name, held⟩ := entry
      by_cases hn : name = id
      · subst hn
        simpa [List.lookup_cons, hne] using ih
      · have : (name != id) = true := by simpa using hn
        simp only [List.filter_cons, this, if_true, List.lookup_cons]
        cases other == name <;> simp_all

/-- A new job waits, and no other status changes. -/
theorem status?_register (registry : Registry) (id other : JobId) :
    (registry.register id).2.status? other =
      if other = id then some .pending else registry.status? other :=
  lookup_assign registry.statuses id other .pending

/-- An update stores its status, and no other status changes. -/
theorem status?_update (registry : Registry) (id other : JobId) (status : Status) :
    (registry.update id status).status? other =
      if other = id then some status else registry.status? other := by
  have hs : (registry.release id status).statuses = registry.statuses := by
    unfold release
    split <;> rfl
  simp only [update, record, status?, hs]
  exact lookup_assign registry.statuses id other status

/-- A cancellation changes no status. -/
theorem status?_cancel (registry : Registry) (id other : JobId) :
    (registry.cancel id).2.status? other = registry.status? other := by
  unfold cancel
  split
  · rfl
  · split <;> rfl

/-- A cancellation reaches the token of its job and no other. -/
theorem isCancelled_cancel (registry : Registry) (id : JobId) (token : Token) :
    (registry.cancel id).2.isCancelled token =
      (registry.isCancelled token || registry.token? id == some token) := by
  unfold cancel isCancelled
  cases h : registry.token? id with
  | some own => simp [Bool.or_comm, eq_comm, Bool.beq_eq_decide_eq]
  | none =>
    dsimp only
    split <;> simp

end Registry

end PageMerge.Job
