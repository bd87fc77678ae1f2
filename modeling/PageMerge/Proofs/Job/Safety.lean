import PageMerge.Proofs.Job.Exchange

/-!
# What a status and a cancellation tell

However the parties take turns, a job that has stopped keeps its status, and until then its status
is the progress that it has made last. A cancellation reaches the job that it names, as long as the
updater has not begun with its final status, and no other. It is told the truth about a job that it
does not reach: that its run has ended, or that there is no such job.

## Main definitions

* `Exchange.Extends`: nothing that was sent or applied is taken back
* `Exchange.Safe`: what everybody can rely on at any time

## Main results

* `Exchange.Extends.status_kept`: a final status stays
* `Exchange.Sound.safe`: what everybody can rely on
* `exchange_safe`: every schedule, from the start on
-/

namespace PageMerge.Job

/-! ### What was sent -/

/-- A final status is the last thing that a job sends, and the only final status. -/
theorem Line.final_of_append {line : Line} {before after : List Status}
    (h : before ++ after = line.sent) {status : Status} (hmem : status ∈ before)
    (hstopped : status.hasStopped = true) :
    line.stage.final? = some status ∧ after = [] := by
  have hreports : status ∉ line.reports.map Status.inProgress := by
    intro hreport
    obtain ⟨percent, -, rfl⟩ := List.mem_map.mp hreport
    cases hstopped
  rw [sent] at h
  rcases List.append_eq_append_iff.mp h with ⟨between, hbefore, -⟩ | ⟨between, hbefore, hafter⟩
  · rw [hbefore] at hreports
    exact absurd (List.mem_append_left between hmem) hreports
  · rw [hbefore] at hmem
    have hbetween : status ∈ between := (List.mem_append.mp hmem).resolve_left hreports
    cases hfinal : line.stage.final? with
    | none =>
      rw [hfinal, Option.toList_none, eq_comm, List.append_eq_nil_iff] at hafter
      rw [hafter.1] at hbetween
      cases hbetween
    | some last =>
      rw [hfinal, Option.toList_some, List.singleton_eq_append_iff] at hafter
      rcases hafter with ⟨rfl, -⟩ | ⟨rfl, hafter⟩
      · cases hbetween
      · rw [List.mem_singleton.mp hbetween]
        exact ⟨rfl, hafter⟩

namespace Exchange

variable {exchange before after : Exchange} {id : JobId} {line : Line}

/-- What was applied is the beginning of what was sent. -/
theorem Tracks.stored_append (h : exchange.Tracks id line) :
    ∃ rest, exchange.stored id ++ rest = line.sent := by
  have hdelivered := h.delivered
  rw [updates, List.append_assoc, updatesOf_append, List.append_assoc] at hdelivered
  exact ⟨_, hdelivered⟩

/-- What the updater has begun with is the beginning of what was sent. -/
theorem Tracks.begun_append (h : exchange.Tracks id line) :
    ∃ rest, exchange.begun id ++ rest = line.sent := by
  have hdelivered := h.delivered
  rw [updates, updatesOf_append, List.append_assoc] at hdelivered
  exact ⟨_, hdelivered⟩

/-- A final status is the one that was applied last. -/
theorem Tracks.getLast?_stored (h : exchange.Tracks id line) {status : Status}
    (hstatus : exchange.registry.status? id = some status) (hstopped : status.hasStopped = true) :
    (exchange.stored id).getLast? = some status := by
  rw [h.status] at hstatus
  cases hlast : (exchange.stored id).getLast? with
  | some last =>
    rw [hlast] at hstatus
    exact hstatus
  | none =>
    rw [hlast] at hstatus
    obtain rfl : Status.pending = status := Option.some.inj hstatus
    cases hstopped

/-! ### Final statuses -/

/-- Nothing that was sent or applied is taken back, and a job that has ended sends nothing more. -/
structure Extends (before after : Exchange) : Prop where
  lines : ∀ id line, before.line? id = some line → ∃ line' more,
    after.line? id = some line' ∧ line'.sent = line.sent ++ more ∧
      (line.stage.final?.isSome → more = [] ∧ line'.stage.final? = line.stage.final?)
  applied : ∃ more, after.applied = before.applied ++ more

theorem extends_refl (exchange : Exchange) : Extends exchange exchange where
  lines _ line hline := ⟨line, [], hline, (List.append_nil _).symm, fun _ => ⟨rfl, rfl⟩⟩
  applied := ⟨[], (List.append_nil _).symm⟩

theorem Extends.trans {first second third : Exchange} (h : Extends first second)
    (h' : Extends second third) : Extends first third where
  lines := by
    intro id line hline
    obtain ⟨line', more, hline', hsent, hclosed⟩ := h.lines id line hline
    obtain ⟨line'', more', hline'', hsent', hclosed'⟩ := h'.lines id line' hline'
    refine ⟨line'', more ++ more', hline'', ?_, ?_⟩
    · rw [hsent', hsent, List.append_assoc]
    · intro hended
      obtain ⟨rfl, hfinal⟩ := hclosed hended
      rw [← hfinal] at hended ⊢
      exact hclosed' hended
  applied := by
    obtain ⟨more, hmore⟩ := h.applied
    obtain ⟨more', hmore'⟩ := h'.applied
    exact ⟨more ++ more', by rw [hmore', hmore, List.append_assoc]⟩

/-- A move on the line of a job. -/
theorem Extends.of_line {line' : Line} {more : List Status}
    (hline : before.line? id = some line) (hlines : after.lines = assign before.lines id line')
    (hsent : line'.sent = line.sent ++ more)
    (hclosed : line.stage.final?.isSome → more = [] ∧ line'.stage.final? = line.stage.final?)
    (happlied : after.applied = before.applied) : Extends before after where
  lines := by
    intro other found hfound
    rw [line?, hlines, Registry.lookup_assign]
    split
    · rename_i hother
      subst hother
      obtain rfl := Option.some.inj (hline.symm.trans hfound)
      exact ⟨line', more, rfl, hsent, hclosed⟩
    · exact (extends_refl before).lines other found hfound
  applied := ⟨[], by rw [happlied, List.append_nil]⟩

/-- A move takes nothing back. -/
theorem Taken.extends (h : Taken before after) : Extends before after := by
  cases h with
  | registered hfree =>
    refine ⟨?_, [], (List.append_nil _).symm⟩
    intro other found hfound
    rw [line?, Registry.lookup_assign, if_neg]
    · exact (extends_refl before).lines other found hfound
    · rintro rfl
      rw [hfree] at hfound
      cases hfound
  | advanced hline hadvances => exact .of_line hline rfl hadvances.sent hadvances.closed rfl
  | enqueued hline hsends =>
    exact .of_line hline rfl (hsends.sent.trans (List.append_nil _).symm)
      (fun _ => ⟨rfl, hsends.final⟩) rfl
  | stored _ => exact ⟨(extends_refl before).lines, _, rfl⟩
  | _ => exact ⟨(extends_refl before).lines, [], (List.append_nil _).symm⟩

theorem extends_takeAll (moves : List Move) : ∀ exchange : Exchange,
    Extends exchange (takeAll moves exchange) := by
  induction moves with
  | nil => exact extends_refl
  | cons move moves ih =>
    exact fun exchange => (taken_take move exchange).extends.trans (ih (take move exchange))

/-- The status of a job that was registered. -/
theorem Sound.exists_line_of_status (h : exchange.Sound) {status : Status}
    (hstatus : exchange.registry.status? id = some status) :
    ∃ line, exchange.line? id = some line := by
  cases hline : exchange.line? id with
  | some line => exact ⟨line, rfl⟩
  | none =>
    rw [(h.strangers id hline).1] at hstatus
    cases hstatus

/-- A final status stays. -/
theorem Extends.status_kept (h : Extends before after) (hbefore : before.Sound)
    (hafter : after.Sound) {status : Status} (hstatus : before.registry.status? id = some status)
    (hstopped : status.hasStopped = true) : after.registry.status? id = some status := by
  obtain ⟨line, hline⟩ := hbefore.exists_line_of_status hstatus
  obtain ⟨line', more, hline', hsent, hclosed⟩ := h.lines id line hline
  have htracks := hbefore.tracks id line hline
  have htracks' := hafter.tracks id line' hline'
  -- The status was applied, and so it is the last thing that the job has sent.
  have hlast := htracks.getLast?_stored hstatus hstopped
  obtain ⟨rest, hrest⟩ := htracks.stored_append
  obtain ⟨hfinal, rfl⟩ :=
    Line.final_of_append hrest (List.mem_of_getLast? hlast) hstopped
  obtain ⟨rfl, -⟩ := hclosed (by rw [hfinal]; rfl)
  -- So nothing more can have been applied since.
  obtain ⟨later, hlater⟩ := h.applied
  obtain ⟨rest', hrest'⟩ := htracks'.stored_append
  have hstored : after.stored id = before.stored id := by
    rw [hsent, List.append_nil, ← hrest, List.append_nil, stored, hlater, updatesOf_append,
      List.append_assoc] at hrest'
    have hnone := (List.append_eq_nil_iff.mp (List.append_right_eq_self.mp hrest')).1
    rw [stored, hlater, updatesOf_append, hnone, List.append_nil]
    rfl
  rw [htracks'.status, hstored, hlast]
  rfl

/-! ### Statuses and tokens -/

/-- Everything that a job sends is either progress or its final status. -/
theorem Tracks.of_mem_sent (h : exchange.Tracks id line) {status : Status}
    (hmem : status ∈ line.sent) :
    (∃ percent, status = .inProgress percent) ∨
      (line.stage.final? = some status ∧ status.hasStopped = true) := by
  rw [Line.sent, List.mem_append] at hmem
  rcases hmem with hreport | hfinal
  · obtain ⟨percent, -, rfl⟩ := List.mem_map.mp hreport
    exact .inl ⟨percent, rfl⟩
  · rw [Option.mem_toList] at hfinal
    exact .inr ⟨hfinal, h.final status hfinal⟩

/-- A job that has not stopped waits, or it has the progress that was applied last. -/
theorem Tracks.status_of_going (h : exchange.Tracks id line) {status : Status}
    (hstatus : exchange.registry.status? id = some status) (hgoing : status.hasStopped = false) :
    (status = .pending ∧ exchange.stored id = []) ∨
      ∃ percent, status = .inProgress percent ∧ (exchange.stored id).getLast? = some status := by
  rw [h.status, Option.some_inj] at hstatus
  cases hlast : (exchange.stored id).getLast? with
  | none =>
    rw [hlast] at hstatus
    exact .inl ⟨hstatus.symm, List.getLast?_eq_none_iff.mp hlast⟩
  | some last =>
    rw [hlast] at hstatus
    obtain rfl : last = status := hstatus
    obtain ⟨rest, hrest⟩ := h.stored_append
    have hmem : last ∈ line.sent := by
      rw [← hrest]
      exact List.mem_append_left rest (List.mem_of_getLast? hlast)
    rcases h.of_mem_sent hmem with ⟨percent, rfl⟩ | ⟨-, hstopped⟩
    · exact .inr ⟨percent, rfl, rfl⟩
    · rw [hgoing] at hstopped
      cases hstopped

/-- The token of a job is there until the updater begins with the final status, and then the run has
ended. -/
theorem Tracks.token_cases (h : exchange.Tracks id line) :
    (exchange.registry.token? id = some line.token ∧
      ∀ status ∈ exchange.begun id, status.hasStopped = false) ∨
    (exchange.registry.token? id = none ∧ ∃ status ∈ exchange.begun id,
      status.hasStopped = true ∧ line.stage.final? = some status) := by
  rw [h.token]
  cases hany : (exchange.begun id).any Status.hasStopped with
  | false => exact .inl ⟨rfl, by simpa using hany⟩
  | true =>
    obtain ⟨status, hmem, hstopped⟩ := List.any_eq_true.mp hany
    obtain ⟨rest, hrest⟩ := h.begun_append
    exact .inr ⟨rfl, status, hmem, hstopped, (Line.final_of_append hrest hmem hstopped).1⟩

/-! ### Cancellations -/

/-- A cancellation that looks for a token does to the registry what a whole one does. -/
theorem registry_seek (id : JobId) (exchange : Exchange) :
    (take (.seek id) exchange).registry = (exchange.registry.cancel id).2 := by
  rw [Registry.cancel_eq, take, seek, Registry.reach]
  cases exchange.registry.token? id <;> rfl

theorem answer?_seek (id : JobId) (exchange : Exchange) :
    exchange.answer? (.seek id) = (exchange.registry.token? id).map fun _ => .requested := by
  rw [answer?, Registry.reach]
  cases exchange.registry.token? id <;> rfl

theorem answer?_look (hid : id ∈ exchange.asking) :
    exchange.answer? (.look id) = some
      (if (exchange.registry.status? id).isSome then .alreadyFinished else .unknownJob) :=
  if_pos hid

/-- What everybody can rely on. -/
structure Safe (exchange : Exchange) : Prop where
  /-- Until a job stops, it waits, or it has the progress that was applied last. -/
  status : ∀ id line, exchange.line? id = some line → ∃ status,
    exchange.registry.status? id = some status ∧ (status.hasStopped = false →
      (status = .pending ∧ exchange.stored id = []) ∨
      ∃ percent, status = .inProgress percent ∧ (exchange.stored id).getLast? = some status)
  /-- What was applied of a job is what it has sent, in the same order. -/
  delivered : ∀ id line, exchange.line? id = some line →
    ∃ rest, exchange.stored id ++ rest = line.sent
  token : ∀ id line, exchange.line? id = some line →
    ((exchange.registry.token? id).isSome ↔
      ∀ status ∈ exchange.begun id, status.hasStopped = false)
  requested : ∀ id, exchange.answer? (.seek id) = some .requested ↔
    (exchange.registry.token? id).isSome
  /-- The job that is told to stop is the only one. -/
  reached : ∀ id, exchange.answer? (.seek id) = some .requested →
    ∀ other line, exchange.line? other = some line →
      (take (.seek id) exchange).registry.isCancelled line.token =
        (exchange.registry.isCancelled line.token || other == id)
  finished : ∀ id, exchange.answer? (.look id) = some .alreadyFinished →
    ∃ line status, exchange.line? id = some line ∧ line.stage.final? = some status
  unknown : ∀ id ∈ exchange.asking,
    (exchange.answer? (.look id) = some .unknownJob ↔ exchange.line? id = none)

theorem Sound.isSome_status? (h : exchange.Sound) (id : JobId) :
    (exchange.registry.status? id).isSome = (exchange.line? id).isSome := by
  cases hline : exchange.line? id with
  | none => rw [(h.strangers id hline).1]; rfl
  | some line => rw [(h.tracks id line hline).status]; rfl

/-- A cancellation that finds a token has found the one of its job, and it finds no other. -/
theorem Sound.isCancelled_seek (h : exchange.Sound) {token : Token}
    (htoken : exchange.registry.token? id = some token) {other : JobId}
    (hline : exchange.line? other = some line) :
    (take (.seek id) exchange).registry.isCancelled line.token =
      (exchange.registry.isCancelled line.token || other == id) := by
  rw [registry_seek, Registry.isCancelled_cancel, htoken]
  congr 1
  obtain ⟨own, hown⟩ : ∃ own, exchange.line? id = some own := by
    cases hown : exchange.line? id with
    | some own => exact ⟨own, rfl⟩
    | none =>
      rw [(h.strangers id hown).2.1] at htoken
      cases htoken
  have hsame : token = own.token := by
    rcases (h.tracks id own hown).token_cases with ⟨hstored, -⟩ | ⟨hnone, -⟩
    · exact Option.some.inj (htoken.symm.trans hstored)
    · rw [hnone] at htoken
      cases htoken
  rw [hsame, Bool.eq_iff_iff, beq_iff_eq, beq_iff_eq, Option.some_inj]
  constructor
  · exact fun heq => (h.distinct id other own line hown hline heq).symm
  · rintro rfl
    rw [Option.some.inj (hown.symm.trans hline)]

/-- What everybody can rely on follows from what is kept by every move. -/
theorem Sound.safe (h : exchange.Sound) : exchange.Safe where
  status := by
    intro id line hline
    have htracks := h.tracks id line hline
    exact ⟨_, htracks.status, htracks.status_of_going htracks.status⟩
  delivered id line hline := (h.tracks id line hline).stored_append
  token := by
    intro id line hline
    rcases (h.tracks id line hline).token_cases with ⟨hstored, hgoing⟩ |
      ⟨hnone, status, hmem, hstopped, -⟩
    · rw [hstored]
      exact iff_of_true rfl hgoing
    · rw [hnone]
      refine iff_of_false Bool.false_ne_true fun hgoing => ?_
      rw [hgoing status hmem] at hstopped
      cases hstopped
  requested := by
    intro id
    rw [answer?_seek]
    cases exchange.registry.token? id <;> simp
  reached := by
    intro id hanswer
    rw [answer?_seek, Option.map_eq_some_iff] at hanswer
    obtain ⟨token, htoken, -⟩ := hanswer
    exact fun other line hline => h.isCancelled_seek htoken hline
  finished := by
    intro id hanswer
    by_cases hasking : id ∈ exchange.asking
    · rw [answer?_look hasking, h.isSome_status?] at hanswer
      cases hline : exchange.line? id with
      | none =>
        rw [hline] at hanswer
        cases hanswer
      | some line =>
        -- Who is asking has found no token, and there is still none.
        rcases (h.tracks id line hline).token_cases with ⟨hstored, -⟩ | ⟨-, status, -, -, hfinal⟩
        · rw [h.asking id hasking] at hstored
          cases hstored
        · exact ⟨line, status, rfl, hfinal⟩
    · rw [answer?, if_neg hasking] at hanswer
      cases hanswer
  unknown := by
    intro id hasking
    rw [answer?_look hasking, h.isSome_status?]
    cases exchange.line? id <;> simp

end Exchange

/-- Whatever the schedule, everybody can rely on what they are told, and a final status stays. -/
theorem exchange_safe (moves : List Move) :
    let exchange := Exchange.takeAll moves .opened
    exchange.Safe ∧ ∀ (later : List Move) (id : JobId) (status : Status),
      exchange.registry.status? id = some status → status.hasStopped = true →
        (Exchange.takeAll later exchange).registry.status? id = some status := by
  intro exchange
  have hsound : exchange.Sound := Exchange.sound_opened.takeAll moves
  refine ⟨hsound.safe, ?_⟩
  intro later id status hstatus hstopped
  exact (Exchange.extends_takeAll later exchange).status_kept hsound (hsound.takeAll later) hstatus
    hstopped

end PageMerge.Job
