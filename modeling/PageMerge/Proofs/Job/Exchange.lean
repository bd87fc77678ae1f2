import PageMerge.Job.Exchange
import PageMerge.Proofs.Assignment

/-!
# Updates arrive once and in order

However the parties take turns, the updates of a job that were applied, then the one that is being
applied, then those in the queue, and at last those that have not reached the queue, are together
just what the job has sent, in this order. The status of a job is the one that was applied last, and
its token is there until the updater takes its final status.

## Main definitions

* `Line.Advances`, `Line.Sends`: what a move does to a line
* `Exchange.Taken`: what a move can do
* `Exchange.Tracks`, `Exchange.Sound`: what holds of a job, and of all jobs

## Main results

* `Exchange.taken_take`: a move does one of these things
* `Exchange.Sound.taken`, `Exchange.sound_takeAll`: a move keeps all jobs sound, and so does a
  schedule
-/

namespace PageMerge.Job

/-! ### The registry -/

namespace Registry

variable (registry : Registry) (id other : JobId) (status : Status)

theorem token?_register : (registry.register id).2.token? other =
    if other = id then some ⟨registry.issued⟩ else registry.token? other :=
  lookup_assign registry.tokens id other _

theorem status?_record : (registry.record id status).status? other =
    if other = id then some status else registry.status? other :=
  lookup_assign registry.statuses id other status

theorem token?_record : (registry.record id status).token? other = registry.token? other := rfl

theorem status?_release : (registry.release id status).status? other = registry.status? other := by
  rw [release]
  split <;> rfl

theorem issued_release : (registry.release id status).issued = registry.issued := by
  rw [release]
  split <;> rfl

/-- Only a final status closes a job, and it closes no other. -/
theorem token?_release : (registry.release id status).token? other =
    if other = id ∧ status.hasStopped = true then none else registry.token? other := by
  rw [release]
  split
  · rename_i hstopped
    change (unassign registry.tokens id).lookup other = _
    by_cases hother : other = id
    · subst hother
      rw [if_pos ⟨rfl, hstopped⟩, List.lookup_eq_none_iff]
      intro entry hentry
      rw [unassign, List.mem_filter, bne_iff_ne] at hentry
      exact bne_iff_ne.mpr (Ne.symm hentry.2)
    · rw [if_neg fun h => hother h.1]
      exact lookup_filter_ne hother registry.tokens
  · rename_i hgoing
    rw [if_neg fun h => hgoing h.2]

end Registry

/-! ### Updates of one job -/

section Updates

variable (id : JobId)

theorem updatesOf_append (updates more : List (JobId × Status)) :
    updatesOf id (updates ++ more) = updatesOf id updates ++ updatesOf id more :=
  List.filterMap_append

theorem updatesOf_self (status : Status) : updatesOf id [(id, status)] = [status] := by
  simp [updatesOf]

theorem updatesOf_other {id other : JobId} (h : other ≠ id) (status : Status) :
    updatesOf other [(id, status)] = [] := by
  simp [updatesOf, Ne.symm h]

end Updates

/-! ### Moves of one job -/

namespace Line

/-- The job has sent something, or its listener has taken something. -/
structure Advances (line next : Line) (more : List Status) : Prop where
  token : next.token = line.token
  sent : next.sent = line.sent ++ more
  unsent : next.unsent = line.unsent ++ more
  closed : line.stage.final?.isSome → more = [] ∧ next.stage.final? = line.stage.final?
  final : ∀ status, next.stage.final? = some status →
    line.stage.final? = some status ∨ status.hasStopped = true

/-- A status of the job is put into the queue. -/
structure Sends (line next : Line) (status : Status) : Prop where
  token : next.token = line.token
  sent : next.sent = line.sent
  unsent : line.unsent = status :: next.unsent
  final : next.stage.final? = line.stage.final?

variable {line next : Line} {status : Status}

theorem advances_report {percent : Nat} (h : line.report percent = some next) :
    line.Advances next [.inProgress percent] := by
  obtain ⟨token, reports, channel, held, stage⟩ := line
  cases stage with
  | running =>
    cases h
    constructor <;> simp [sent, unsent, Stage.final?, Stage.unannounced?]
  | _ => cases h

theorem advances_finish (h : line.finish status = some next) : line.Advances next [status] := by
  obtain ⟨token, reports, channel, held, stage⟩ := line
  cases stage with
  | running =>
    dsimp only [finish] at h
    split at h
    · rename_i hstopped
      cases h
      constructor <;> simp [sent, unsent, Stage.final?, Stage.unannounced?, hstopped]
    · cases h
  | _ => cases h

theorem advances_hear (h : line.hear = some next) : line.Advances next [] := by
  obtain ⟨token, reports, channel, held, stage⟩ := line
  rw [hear] at h
  split at h
  · rename_i percent rest hheld hchannel
    cases h
    obtain rfl : held = none := hheld
    obtain rfl : channel = percent :: rest := hchannel
    exact ⟨rfl, by simp [sent], by simp [unsent], fun _ => ⟨rfl, rfl⟩, fun _ => .inl⟩
  · cases h

theorem sends_forward (h : line.forward = some (status, next)) : line.Sends next status := by
  obtain ⟨token, reports, channel, held, stage⟩ := line
  cases held with
  | none => cases h
  | some percent =>
    cases h
    constructor <;> simp [sent, unsent]

theorem sends_announce (h : line.announce = some (status, next)) : line.Sends next status := by
  obtain ⟨token, reports, channel, held, stage⟩ := line
  rw [announce] at h
  split at h
  · rename_i last hstage hheld hchannel
    cases h
    obtain rfl : stage = .ended status := hstage
    obtain rfl : held = none := hheld
    obtain rfl : channel = [] := hchannel
    constructor <;> simp [sent, unsent, Stage.final?, Stage.unannounced?]
  · cases h

end Line

/-! ### Moves of all parties -/

namespace Exchange

variable {exchange next : Exchange}

/-- A line either is the one that was changed, or is as it was. -/
theorem line_cases {id other : JobId} {line found : Line} (hfound : next.line? other = some found)
    (hlines : next.lines = assign exchange.lines id line) :
    (other = id ∧ found = line) ∨ (other ≠ id ∧ exchange.line? other = some found) := by
  rw [line?, hlines, Registry.lookup_assign] at hfound
  split at hfound
  · rename_i hother
    exact .inl ⟨hother, (Option.some.inj hfound).symm⟩
  · rename_i hother
    exact .inr ⟨hother, hfound⟩

/-- What a move can do. -/
inductive Taken (exchange : Exchange) : Exchange → Prop
  /-- The move was not possible. -/
  | idle : Taken exchange exchange
  | registered {id : JobId} (hfree : exchange.line? id = none) (hquiet : id ∉ exchange.asking) :
    Taken exchange { exchange with
      registry := (exchange.registry.register id).2
      lines := assign exchange.lines id (.opened ⟨exchange.registry.issued⟩) }
  | advanced {id : JobId} {line line' : Line} {more : List Status}
      (hline : exchange.line? id = some line) (hadvances : line.Advances line' more) :
    Taken exchange { exchange with lines := assign exchange.lines id line' }
  | enqueued {id : JobId} {line line' : Line} {status : Status}
      (hline : exchange.line? id = some line) (hsends : line.Sends line' status) :
    Taken exchange { exchange with
      lines := assign exchange.lines id line', queue := exchange.queue ++ [(id, status)] }
  | begun {id : JobId} {status : Status} {rest : List (JobId × Status)}
      (hidle : exchange.applying = none) (hqueue : exchange.queue = (id, status) :: rest) :
    Taken exchange { exchange with
      registry := exchange.registry.release id status, queue := rest
      applying := some (id, status) }
  | stored {id : JobId} {status : Status} (happlying : exchange.applying = some (id, status)) :
    Taken exchange { exchange with
      registry := exchange.registry.record id status, applying := none
      applied := exchange.applied ++ [(id, status)] }
  | told {id : JobId} {token : Token} (htoken : exchange.registry.token? id = some token) :
    Taken exchange { exchange with
      registry := { exchange.registry with cancelled := token :: exchange.registry.cancelled } }
  | asked {id : JobId} (hclosed : exchange.registry.token? id = none) :
    Taken exchange { exchange with asking := id :: exchange.asking }
  | answered {id : JobId} :
    Taken exchange { exchange with asking := exchange.asking.erase id }

theorem taken_onLine {id : JobId} {step : Line → Option Line}
    (hstep : ∀ line line', step line = some line' → ∃ more, line.Advances line' more) :
    Taken exchange (onLine id step exchange) := by
  rw [onLine]
  split
  · rename_i line' hbind
    obtain ⟨line, hline, hnext⟩ := Option.bind_eq_some_iff.mp hbind
    obtain ⟨more, hadvances⟩ := hstep line line' hnext
    exact .advanced hline hadvances
  · exact .idle

theorem taken_enqueue {id : JobId} {step : Line → Option (Status × Line)}
    (hstep : ∀ line line' status, step line = some (status, line') → line.Sends line' status) :
    Taken exchange (enqueue id step exchange) := by
  rw [enqueue]
  split
  · rename_i status line' hbind
    obtain ⟨line, hline, hnext⟩ := Option.bind_eq_some_iff.mp hbind
    exact .enqueued hline (hstep line line' status hnext)
  · exact .idle

/-- A move does one of these things. -/
theorem taken_take (move : Move) (exchange : Exchange) : Taken exchange (take move exchange) := by
  cases move with
  | register id =>
    rw [take, register]
    split
    · exact .idle
    · rename_i hfresh
      rw [not_or, Option.not_isSome_iff_eq_none] at hfresh
      exact .registered hfresh.1 hfresh.2
  | report id percent => exact taken_onLine fun line line' h => ⟨_, Line.advances_report h⟩
  | finish id status => exact taken_onLine fun line line' h => ⟨_, Line.advances_finish h⟩
  | hear id => exact taken_onLine fun line line' h => ⟨_, Line.advances_hear h⟩
  | forward id => exact taken_enqueue fun line line' status h => Line.sends_forward h
  | announce id => exact taken_enqueue fun line line' status h => Line.sends_announce h
  | begin =>
    rw [take, begin]
    split
    · rename_i id status rest hidle hqueue
      exact .begun hidle hqueue
    · exact .idle
  | store =>
    rw [take, store]
    split
    · rename_i id status happlying
      exact .stored happlying
    · exact .idle
  | seek id =>
    rw [take, seek, Registry.reach]
    cases htoken : exchange.registry.token? id with
    | some token => exact .told htoken
    | none => exact .asked htoken
  | look id => exact .answered

/-! ### What holds of every job -/

/-- The updates of a job arrive once and in their order, and the registry is where they have got
to. -/
structure Tracks (exchange : Exchange) (id : JobId) (line : Line) : Prop where
  delivered : updatesOf id exchange.updates ++ line.unsent = line.sent
  status : exchange.registry.status? id = some ((exchange.stored id).getLast?.getD .pending)
  token : exchange.registry.token? id =
    bif (exchange.begun id).any Status.hasStopped then none else some line.token
  issued : line.token.number < exchange.registry.issued
  final : ∀ status, line.stage.final? = some status → status.hasStopped = true

/-- All jobs are tracked, nothing is known of any other name, no two jobs have one token, and who is
asking for a job has found no token and would find none. -/
structure Sound (exchange : Exchange) : Prop where
  tracks : ∀ id line, exchange.line? id = some line → exchange.Tracks id line
  strangers : ∀ id, exchange.line? id = none →
    exchange.registry.status? id = none ∧ exchange.registry.token? id = none ∧
      updatesOf id exchange.updates = []
  distinct : ∀ id other line line', exchange.line? id = some line →
    exchange.line? other = some line' → line.token = line'.token → id = other
  asking : ∀ id ∈ exchange.asking, exchange.registry.token? id = none

theorem sound_opened : Sound opened where
  tracks _ _ h := by cases h
  strangers _ _ := ⟨rfl, rfl, rfl⟩
  distinct _ _ _ _ h := by cases h
  asking _ h := by cases h

/-! ### Single jobs -/

section Tracked

variable {id : JobId} {line line' : Line}

/-- A job of which nothing changes that is tracked. -/
theorem Tracks.congr (h : exchange.Tracks id line)
    (hupdates : updatesOf id next.updates = updatesOf id exchange.updates)
    (hstored : next.stored id = exchange.stored id) (hbegun : next.begun id = exchange.begun id)
    (hstatus : next.registry.status? id = exchange.registry.status? id)
    (htoken : next.registry.token? id = exchange.registry.token? id)
    (hissued : exchange.registry.issued ≤ next.registry.issued) : next.Tracks id line where
  delivered := by
    rw [hupdates]
    exact h.delivered
  status := by
    rw [hstatus, hstored]
    exact h.status
  token := by
    rw [htoken, hbegun]
    exact h.token
  issued := Nat.lt_of_lt_of_le h.issued hissued
  final := h.final

/-- What a job sends comes after what it has sent before. -/
theorem Tracks.advance (h : exchange.Tracks id line) {more : List Status}
    (hadvances : line.Advances line' more) : exchange.Tracks id line' where
  delivered := by
    rw [hadvances.sent, hadvances.unsent, ← List.append_assoc, h.delivered]
  status := h.status
  token := by
    rw [hadvances.token]
    exact h.token
  issued := by
    rw [hadvances.token]
    exact h.issued
  final := by
    intro status hstatus
    rcases hadvances.final status hstatus with hbefore | hstopped
    · exact h.final status hbefore
    · exact hstopped

/-- A status that is put into the queue is the first one that was not there. -/
theorem Tracks.enqueue (h : exchange.Tracks id line) {status : Status}
    (hsends : line.Sends line' status) :
    ({ exchange with queue := exchange.queue ++ [(id, status)] } : Exchange).Tracks id line' where
  delivered := by
    -- The status only moves on, from the head of what was not sent to the tail of the queue.
    have hdelivered := h.delivered
    rw [hsends.unsent, ← hsends.sent] at hdelivered
    rw [updates, ← List.append_assoc, updatesOf_append, updatesOf_self, List.append_assoc]
    exact hdelivered
  status := h.status
  token := by
    rw [hsends.token]
    exact h.token
  issued := by
    rw [hsends.token]
    exact h.issued
  final := by
    rw [hsends.final]
    exact h.final

section Applying

variable {at_ : JobId} {status : Status} {rest : List (JobId × Status)}

/-- The updater takes an update, of this job or of another one. -/
theorem Tracks.begin (h : exchange.Tracks id line) (hidle : exchange.applying = none)
    (hqueue : exchange.queue = (at_, status) :: rest) :
    ({ exchange with
      registry := exchange.registry.release at_ status, queue := rest
      applying := some (at_, status) } : Exchange).Tracks id line where
  delivered := by
    have hdelivered := h.delivered
    simp only [updates, hidle, hqueue, Option.toList_none, List.append_nil] at hdelivered
    simpa [updates] using hdelivered
  status := by
    rw [Registry.status?_release]
    exact h.status
  token := by
    have htoken := h.token
    -- The update counts as begun from now on, and it takes the token with it if it is final.
    simp only [begun, hidle, Option.toList_none, List.append_nil, Option.toList_some] at htoken ⊢
    rw [Registry.token?_release, updatesOf_append, List.any_append]
    by_cases hid : id = at_
    · subst hid
      rw [updatesOf_self]
      cases hstopped : status.hasStopped <;> simp [hstopped, htoken]
    · rw [updatesOf_other hid, if_neg fun hboth => hid hboth.1, List.any_nil, Bool.or_false]
      exact htoken
  issued := by
    rw [Registry.issued_release]
    exact h.issued
  final := h.final

/-- The updater stores a status, of this job or of another one. -/
theorem Tracks.store (h : exchange.Tracks id line)
    (happlying : exchange.applying = some (at_, status)) :
    ({ exchange with
      registry := exchange.registry.record at_ status, applying := none
      applied := exchange.applied ++ [(at_, status)] } : Exchange).Tracks id line where
  delivered := by
    have hdelivered := h.delivered
    simpa only [updates, happlying, Option.toList_some, Option.toList_none, List.append_nil] using
      hdelivered
  status := by
    rw [Registry.status?_record, stored, updatesOf_append]
    by_cases hid : id = at_
    · subst hid
      rw [if_pos rfl, updatesOf_self, List.getLast?_concat]
      rfl
    · rw [if_neg hid, updatesOf_other hid, List.append_nil]
      exact h.status
  token := by
    have htoken := h.token
    simpa only [begun, happlying, Option.toList_some, Option.toList_none, List.append_nil,
      Registry.token?_record] using htoken
  issued := h.issued
  final := h.final

end Applying

end Tracked

/-! ### All jobs -/

/-- Updates in the queue, or further on, are those of a job. -/
theorem Sound.exists_line (h : exchange.Sound) {id : JobId} {status : Status}
    (hupdate : (id, status) ∈ exchange.updates) : ∃ line, exchange.line? id = some line := by
  cases hline : exchange.line? id with
  | some line => exact ⟨line, rfl⟩
  | none =>
    obtain ⟨-, -, hnone⟩ := h.strangers id hline
    have hmem : status ∈ updatesOf id exchange.updates :=
      List.mem_filterMap.mpr ⟨_, hupdate, if_pos rfl⟩
    rw [hnone] at hmem
    cases hmem

/-- The jobs are the same as before, with their tokens. -/
theorem Sound.of_tokens (h : exchange.Sound)
    (htokens : ∀ id, (next.line? id).map Line.token = (exchange.line? id).map Line.token)
    (htracks : ∀ id line, next.line? id = some line → next.Tracks id line)
    (hstrangers : ∀ id, exchange.line? id = none →
      next.registry.status? id = none ∧ next.registry.token? id = none ∧
        updatesOf id next.updates = [])
    (hasking : ∀ id ∈ next.asking, next.registry.token? id = none) : next.Sound where
  tracks := htracks
  strangers := by
    intro id hline
    have htoken := htokens id
    rw [hline, Option.map_none, eq_comm, Option.map_eq_none_iff] at htoken
    exact hstrangers id htoken
  distinct := by
    have hbefore : ∀ id line, next.line? id = some line →
        ∃ line', exchange.line? id = some line' ∧ line'.token = line.token := by
      intro id line hline
      have htoken := htokens id
      rw [hline, Option.map_some, eq_comm, Option.map_eq_some_iff] at htoken
      exact htoken
    intro id other line line' hline hother htoken
    obtain ⟨before, hbeforeLine, hbeforeToken⟩ := hbefore id line hline
    obtain ⟨before', hbeforeLine', hbeforeToken'⟩ := hbefore other line' hother
    exact h.distinct id other before before' hbeforeLine hbeforeLine'
      (hbeforeToken.trans (htoken.trans hbeforeToken'.symm))
  asking := hasking

/-- A line that is changed keeps its token. -/
theorem tokens_assign {id : JobId} {line line' : Line} (hline : exchange.line? id = some line)
    (htoken : line'.token = line.token) (hlines : next.lines = assign exchange.lines id line')
    (other : JobId) : (next.line? other).map Line.token =
      (exchange.line? other).map Line.token := by
  rw [line?, hlines, Registry.lookup_assign]
  split
  · rename_i hother
    subst hother
    rw [hline, Option.map_some, Option.map_some, htoken]
  · rfl

section Moves

variable (h : exchange.Sound) {id : JobId} {line line' : Line} {status : Status}

include h

theorem Sound.advance {more : List Status} (hline : exchange.line? id = some line)
    (hadvances : line.Advances line' more) :
    ({ exchange with lines := assign exchange.lines id line' } : Exchange).Sound := by
  refine h.of_tokens (tokens_assign hline hadvances.token rfl) ?_ h.strangers h.asking
  intro other found hfound
  rcases line_cases hfound rfl with ⟨rfl, rfl⟩ | ⟨_, hfound⟩
  · exact ((h.tracks other line hline).advance hadvances).congr rfl rfl rfl rfl rfl (Nat.le_refl _)
  · exact (h.tracks other found hfound).congr rfl rfl rfl rfl rfl (Nat.le_refl _)

theorem Sound.enqueue (hline : exchange.line? id = some line) (hsends : line.Sends line' status) :
    ({ exchange with
      lines := assign exchange.lines id line'
      queue := exchange.queue ++ [(id, status)] } : Exchange).Sound := by
  have hupdates : ∀ other, other ≠ id →
      updatesOf other (exchange.applied ++ exchange.applying.toList ++
        (exchange.queue ++ [(id, status)])) = updatesOf other exchange.updates := by
    intro other hother
    rw [← List.append_assoc, updatesOf_append, updatesOf_other hother, List.append_nil, updates]
  refine h.of_tokens (tokens_assign hline hsends.token rfl) ?_ ?_ h.asking
  · intro other found hfound
    rcases line_cases hfound rfl with ⟨rfl, rfl⟩ | ⟨hother, hfound⟩
    · exact ((h.tracks other line hline).enqueue hsends).congr rfl rfl rfl rfl rfl (Nat.le_refl _)
    · exact (h.tracks other found hfound).congr (hupdates other hother) rfl rfl rfl rfl
        (Nat.le_refl _)
  · intro other hnone
    have hother : other ≠ id := by
      rintro rfl
      rw [hline] at hnone
      cases hnone
    obtain ⟨hstatus, htoken, hempty⟩ := h.strangers other hnone
    exact ⟨hstatus, htoken, (hupdates other hother).trans hempty⟩

theorem Sound.begin {rest : List (JobId × Status)} (hidle : exchange.applying = none)
    (hqueue : exchange.queue = (id, status) :: rest) :
    ({ exchange with
      registry := exchange.registry.release id status, queue := rest
      applying := some (id, status) } : Exchange).Sound := by
  have hnone : ∀ other, exchange.registry.token? other = none →
      (exchange.registry.release id status).token? other = none := by
    intro other htoken
    rw [Registry.token?_release, htoken, ite_self]
  refine h.of_tokens (fun _ => rfl) ?_ ?_ fun other hother => hnone other (h.asking other hother)
  · exact fun other found hfound => (h.tracks other found hfound).begin hidle hqueue
  · intro other hfree
    obtain ⟨hstatus, htoken, hempty⟩ := h.strangers other hfree
    refine ⟨(Registry.status?_release ..).trans hstatus, hnone other htoken, ?_⟩
    simpa [updates, hidle, hqueue] using hempty

theorem Sound.store (happlying : exchange.applying = some (id, status)) :
    ({ exchange with
      registry := exchange.registry.record id status, applying := none
      applied := exchange.applied ++ [(id, status)] } : Exchange).Sound := by
  have hupdate : (id, status) ∈ exchange.updates := by
    simp [updates, happlying]
  obtain ⟨line, hline⟩ := h.exists_line hupdate
  refine h.of_tokens (fun _ => rfl) ?_ ?_ h.asking
  · exact fun other found hfound => (h.tracks other found hfound).store happlying
  · intro other hfree
    obtain ⟨hstatus, htoken, hempty⟩ := h.strangers other hfree
    refine ⟨?_, htoken, ?_⟩
    · rw [Registry.status?_record, if_neg]
      · exact hstatus
      · rintro rfl
        rw [hline] at hfree
        cases hfree
    · simpa [updates, happlying] using hempty

/-- A new job is tracked, as nothing was known of its name. -/
theorem Sound.tracks_register (hfree : exchange.line? id = none) :
    ({ exchange with registry := (exchange.registry.register id).2 } : Exchange).Tracks id
      (.opened ⟨exchange.registry.issued⟩) := by
  obtain ⟨-, -, hempty⟩ := h.strangers id hfree
  have hbegun : updatesOf id (exchange.applied ++ exchange.applying.toList) = [] := by
    rw [updates, updatesOf_append] at hempty
    exact (List.append_eq_nil_iff.mp hempty).1
  have hstored : updatesOf id exchange.applied = [] := by
    rw [updatesOf_append] at hbegun
    exact (List.append_eq_nil_iff.mp hbegun).1
  constructor
  case delivered => exact (List.append_nil _).trans hempty
  case status =>
    refine (Registry.status?_register ..).trans ((if_pos rfl).trans ?_)
    rw [stored, hstored]
    rfl
  case token =>
    refine (Registry.token?_register ..).trans ((if_pos rfl).trans ?_)
    rw [begun, hbegun]
    rfl
  case issued => exact Nat.lt_succ_self _
  case final =>
    intro status hstatus
    cases hstatus

theorem Sound.register (hfree : exchange.line? id = none) (hquiet : id ∉ exchange.asking) :
    ({ exchange with
      registry := (exchange.registry.register id).2
      lines := assign exchange.lines id (.opened ⟨exchange.registry.issued⟩) } :
        Exchange).Sound := by
  have hstatus : ∀ other, other ≠ id → (exchange.registry.register id).2.status? other =
      exchange.registry.status? other :=
    fun other hother => (Registry.status?_register ..).trans (if_neg hother)
  have htoken : ∀ other, other ≠ id → (exchange.registry.register id).2.token? other =
      exchange.registry.token? other :=
    fun other hother => (Registry.token?_register ..).trans (if_neg hother)
  -- The token of the new job has a number that no other token has.
  have hnew : ∀ other found, exchange.line? other = some found →
      found.token ≠ ⟨exchange.registry.issued⟩ := by
    intro other found hfound heq
    have hissued := (h.tracks other found hfound).issued
    rw [heq] at hissued
    exact Nat.lt_irrefl _ hissued
  constructor
  case tracks =>
    intro other found hfound
    rcases line_cases hfound rfl with ⟨rfl, rfl⟩ | ⟨hother, hfound⟩
    · exact (h.tracks_register hfree).congr rfl rfl rfl rfl rfl (Nat.le_refl _)
    · exact (h.tracks other found hfound).congr rfl rfl rfl (hstatus other hother)
        (htoken other hother) (Nat.le_succ _)
  case strangers =>
    intro other hnone
    rw [line?, Registry.lookup_assign] at hnone
    split at hnone
    · cases hnone
    · rename_i hother
      obtain ⟨hnoStatus, hnoToken, hempty⟩ := h.strangers other hnone
      exact ⟨(hstatus other hother).trans hnoStatus, (htoken other hother).trans hnoToken, hempty⟩
  case distinct =>
    intro first second line line' hline hline' heq
    rcases line_cases hline rfl with ⟨rfl, rfl⟩ | ⟨_, hold⟩ <;>
      rcases line_cases hline' rfl with ⟨rfl, rfl⟩ | ⟨_, hold'⟩
    · rfl
    · exact absurd heq.symm (hnew second line' hold')
    · exact absurd heq (hnew first line hold)
    · exact h.distinct first second line line' hold hold' heq
  case asking =>
    intro other hasking
    refine (htoken other ?_).trans (h.asking other hasking)
    rintro rfl
    exact hquiet hasking

/-- Cancellations, and what they are told, change nothing of what is tracked. -/
theorem Sound.ask (cancelled : List Token) {asking : List JobId}
    (hasking : ∀ id ∈ asking, exchange.registry.token? id = none) :
    ({ exchange with registry := { exchange.registry with cancelled }, asking } :
      Exchange).Sound := by
  refine h.of_tokens (fun _ => rfl) ?_ h.strangers hasking
  exact fun id line hline => (h.tracks id line hline).congr rfl rfl rfl rfl rfl (Nat.le_refl _)

end Moves

/-- A move keeps all jobs sound. -/
theorem Sound.taken (h : exchange.Sound) (htaken : Taken exchange next) : next.Sound := by
  cases htaken with
  | idle => exact h
  | registered hfree hquiet => exact h.register hfree hquiet
  | advanced hline hadvances => exact h.advance hline hadvances
  | enqueued hline hsends => exact h.enqueue hline hsends
  | begun hidle hqueue => exact h.begin hidle hqueue
  | stored happlying => exact h.store happlying
  | told htoken => exact h.ask _ h.asking
  | asked hclosed =>
    refine h.ask exchange.registry.cancelled ?_
    intro id hid
    rcases List.mem_cons.mp hid with rfl | hid
    · exact hclosed
    · exact h.asking id hid
  | answered =>
    exact h.ask exchange.registry.cancelled fun id hid => h.asking id (List.mem_of_mem_erase hid)

/-- A schedule keeps all jobs sound. -/
theorem Sound.takeAll (moves : List Move) (h : exchange.Sound) :
    (takeAll moves exchange).Sound := by
  induction moves generalizing exchange with
  | nil => exact h
  | cons move moves ih => exact ih (h.taken (taken_take move exchange))

end Exchange

end PageMerge.Job
