import PageMerge.Api.Handler
import PageMerge.Proofs.Job.Safety
import PageMerge.Proofs.Job.Whole

/-!
# What a server tells about its jobs

A server works without channels: what a job reports in a step is in the registry when the step is
over. This is what happens on an exchange where every message is delivered before anything else goes
on. So whatever is true of every exchange is true of servers, in all orders of their requests and of
the steps of their jobs.

## Main definitions

* `delivery`: a message goes all the way
* `Server.Becomes`: what becomes of a server by requests and by steps of its jobs
* `Server.Mirrors`: a server looks like an exchange on which nothing is on its way

## Main results

* `Server.Becomes.mirrored`: a server always looks like some exchange
* `Server.Becomes.status_kept`: a final status is never taken back
* `Server.Becomes.status?_iff`: a final status is told of a job just if it has stopped with it
-/

namespace PageMerge.Job

open PageMerge.Api (Request)

variable {σ : Type}

/-- What a job reports is its progress. -/
theorem inProgress_of_mem {events : List Event} {status : Status}
    (h : status ∈ events.filterMap progressStatus?) : ∃ percent, status = .inProgress percent := by
  obtain ⟨event, -, hevent⟩ := List.mem_filterMap.mp h
  cases event with
  | progress done total => exact ⟨_, (Option.some.inj hevent).symm⟩
  | log entry => cases hevent

/-! ### Messages that go all the way -/

/-- A job sends a status, and it goes all the way to the registry. -/
def delivery (id : JobId) : Status → List Move
  | .pending => []
  | .inProgress percent => [.report id percent, .hear id, .forward id, .begin, .store]
  | status => [.finish id status, .announce id, .begin, .store]

/-- Of two values that are assigned to a name the first is lost. -/
theorem assign_assign {α : Type} (entries : List (JobId × α)) (id : JobId) (value value' : α) :
    assign (assign entries id value) id value' = assign entries id value' := by
  simp [assign]

namespace Exchange

/-- Nothing is on its way, and nobody is asking. -/
structure Quiet (exchange : Exchange) : Prop where
  queue : exchange.queue = []
  applying : exchange.applying = none
  asking : exchange.asking = []

variable {exchange : Exchange} {id : JobId} {token : Token} {reports : List Nat}

theorem takeAll_append (moves more : List Move) (exchange : Exchange) :
    takeAll (moves ++ more) exchange = takeAll more (takeAll moves exchange) :=
  List.foldl_append

/-- Progress is delivered. -/
theorem takeAll_delivery_inProgress (h : exchange.Quiet)
    (hline : exchange.line? id = some ⟨token, reports, [], none, .running⟩) (percent : Nat) :
    takeAll (delivery id (.inProgress percent)) exchange =
      { exchange with
        registry := exchange.registry.update id (.inProgress percent)
        lines := assign exchange.lines id ⟨token, reports ++ [percent], [], none, .running⟩
        applied := exchange.applied ++ [(id, .inProgress percent)] } := by
  obtain ⟨registry, lines, queue, applying, applied, asking⟩ := exchange
  obtain ⟨rfl, rfl, rfl⟩ := h
  rw [line?] at hline
  simp [delivery, takeAll, take, onLine, enqueue, begin, store, line?, hline, assign_assign,
    Registry.lookup_assign, Line.report, Line.hear, Line.forward, Registry.update]

/-- A final status is delivered. -/
theorem takeAll_delivery_of_hasStopped (h : exchange.Quiet)
    (hline : exchange.line? id = some ⟨token, reports, [], none, .running⟩) {status : Status}
    (hstopped : status.hasStopped = true) :
    takeAll (delivery id status) exchange =
      { exchange with
        registry := exchange.registry.update id status
        lines := assign exchange.lines id ⟨token, reports, [], none, .announced status⟩
        applied := exchange.applied ++ [(id, status)] } := by
  have hdelivery : delivery id status = [.finish id status, .announce id, .begin, .store] := by
    cases status with
    | pending => cases hstopped
    | inProgress percent => cases hstopped
    | _ => rfl
  obtain ⟨registry, lines, queue, applying, applied, asking⟩ := exchange
  obtain ⟨rfl, rfl, rfl⟩ := h
  rw [line?] at hline
  simp [hdelivery, takeAll, take, onLine, enqueue, begin, store, line?, hline, assign_assign,
    Registry.lookup_assign, Line.finish, Line.announce, Registry.update, hstopped]

/-- A cancellation that nothing interrupts. -/
theorem takeAll_cancel (h : exchange.Quiet) (id : JobId) :
    takeAll [.seek id, .look id] exchange =
      { exchange with registry := (exchange.registry.cancel id).2 } := by
  obtain ⟨registry, lines, queue, applying, applied, asking⟩ := exchange
  obtain ⟨rfl, rfl, rfl⟩ := h
  simp only [takeAll, List.foldl_cons, List.foldl_nil, take, look, seek, Registry.cancel_eq,
    Registry.reach]
  cases registry.token? id <;> simp

/-- If nothing is on its way, everything that a job has sent was applied. -/
theorem Tracks.stored_of_quiet {stage : Stage}
    (h : exchange.Tracks id ⟨token, reports, [], none, stage⟩) (hquiet : exchange.Quiet)
    (hstage : stage.unannounced? = none) :
    exchange.stored id = Line.sent ⟨token, reports, [], none, stage⟩ := by
  have hdelivered := h.delivered
  simpa [updates, hquiet.applying, hquiet.queue, Line.unsent, hstage, stored] using hdelivered

end Exchange

/-! ### Servers and exchanges -/

/-- The stage of a job between its steps. -/
def Phase.stage (phase : Phase σ) : Stage :=
  match phase.status? with
  | none => .running
  | some status => .announced status

theorem Phase.unannounced?_stage (phase : Phase σ) : phase.stage.unannounced? = none := by
  cases phase <;> rfl

/-- A job that has announced its final status has stopped with it. -/
theorem Phase.eq_ended {phase : Phase σ} {status : Status}
    (h : phase.stage.final? = some status) : phase = .ended status := by
  cases phase with
  | ended => exact congrArg Phase.ended (Option.some.inj h)
  | _ => cases h

namespace Server

/-- A server looks like an exchange on which nothing is on its way. -/
structure Mirrors (server : Server σ) (exchange : Exchange) : Prop where
  registry : exchange.registry = server.registry
  quiet : exchange.Quiet
  lines : ∀ id, ∃ reports, exchange.line? id = (server.jobs.lookup id).map fun job =>
    ⟨job.token, reports, [], none, job.phase.stage⟩

variable {setting : JobSetting σ} {server : Server σ} {exchange : Exchange} {id : JobId}
  {job : RunningJob σ}

theorem mirrors_ofWorkspace (space : Workspace σ) : (ofWorkspace space).Mirrors .opened where
  registry := rfl
  quiet := ⟨rfl, rfl, rfl⟩
  lines _ := ⟨[], rfl⟩

theorem Mirrors.exists_line (h : server.Mirrors exchange)
    (hjob : server.jobs.lookup id = some job) :
    ∃ reports, exchange.line? id = some ⟨job.token, reports, [], none, job.phase.stage⟩ := by
  obtain ⟨reports, hline⟩ := h.lines id
  rw [hjob] at hline
  exact ⟨reports, hline⟩

/-- A job and its line change together. -/
theorem Mirrors.assign {next : Exchange} (h : server.Mirrors exchange) {registry : Registry}
    {reports : List Nat} (job : RunningJob σ) (space : Workspace σ)
    (hregistry : next.registry = registry) (hquiet : next.Quiet)
    (hlines : next.lines =
      Job.assign exchange.lines id ⟨job.token, reports, [], none, job.phase.stage⟩) :
    (⟨space, registry, Job.assign server.jobs id job⟩ : Server σ).Mirrors next where
  registry := hregistry
  quiet := hquiet
  lines := by
    intro other
    rw [Exchange.line?, hlines, Registry.lookup_assign, Registry.lookup_assign]
    split
    · exact ⟨reports, rfl⟩
    · exact h.lines other

/-- A step of a job about which nothing is told. -/
theorem Mirrors.advance (h : server.Mirrors exchange) (hjob : server.jobs.lookup id = some job)
    {phase : Phase σ} (hstage : phase.stage = job.phase.stage) (space : Workspace σ) :
    (⟨space, server.registry, Job.assign server.jobs id { job with phase }⟩ : Server σ).Mirrors
      exchange where
  registry := h.registry
  quiet := h.quiet
  lines := by
    intro other
    rw [Registry.lookup_assign]
    split
    · rename_i hother
      subst hother
      obtain ⟨reports, hline⟩ := h.exists_line hjob
      rw [← hstage] at hline
      exact ⟨reports, hline⟩
    · exact h.lines other

/-- A job tells its progress. -/
theorem Mirrors.report (h : server.Mirrors exchange) (hjob : server.jobs.lookup id = some job)
    (hrunning : job.phase.stage = .running) (percent : Nat) :
    (⟨server.space, server.registry.update id (.inProgress percent),
        Job.assign server.jobs id job⟩ : Server σ).Mirrors
      (Exchange.takeAll (delivery id (.inProgress percent)) exchange) := by
  obtain ⟨reports, hline⟩ := h.exists_line hjob
  rw [hrunning] at hline
  rw [Exchange.takeAll_delivery_inProgress h.quiet hline, ← hrunning, h.registry]
  exact h.assign job server.space rfl ⟨h.quiet.queue, h.quiet.applying, h.quiet.asking⟩ rfl

/-- A job stops. -/
theorem Mirrors.finish (h : server.Mirrors exchange) (hjob : server.jobs.lookup id = some job)
    (hrunning : job.phase.stage = .running) {status : Status} (hstopped : status.hasStopped = true)
    (space : Workspace σ) :
    (⟨space, server.registry.update id status,
        Job.assign server.jobs id { job with phase := .ended status }⟩ : Server σ).Mirrors
      (Exchange.takeAll (delivery id status) exchange) := by
  obtain ⟨reports, hline⟩ := h.exists_line hjob
  rw [hrunning] at hline
  rw [Exchange.takeAll_delivery_of_hasStopped h.quiet hline hstopped, h.registry]
  exact h.assign { job with phase := .ended status } space rfl
    ⟨h.quiet.queue, h.quiet.applying, h.quiet.asking⟩ rfl

/-- A job tells its progress several times. -/
theorem Mirrors.reports (h : server.Mirrors exchange) (hjob : server.jobs.lookup id = some job)
    (hrunning : job.phase.stage = .running) (statuses : List Status)
    (hstatuses : ∀ status ∈ statuses, ∃ percent, status = .inProgress percent) :
    ∃ moves, (⟨server.space, statuses.foldl (fun registry status => registry.update id status)
        server.registry, Job.assign server.jobs id job⟩ : Server σ).Mirrors
      (Exchange.takeAll moves exchange) := by
  induction statuses generalizing server exchange with
  | nil => exact ⟨[], h.advance hjob rfl server.space⟩
  | cons status statuses ih =>
    obtain ⟨percent, rfl⟩ := hstatuses status List.mem_cons_self
    have hreported := h.report hjob hrunning percent
    obtain ⟨moves, hmoves⟩ := ih hreported (by rw [Registry.lookup_assign, if_pos rfl])
      fun status hmem => hstatuses status (List.mem_cons_of_mem _ hmem)
    refine ⟨delivery id (.inProgress percent) ++ moves, ?_⟩
    rw [Exchange.takeAll_append, List.foldl_cons]
    rw [assign_assign] at hmoves
    exact hmoves

/-- What a step of a job changes. -/
theorem state_step (setting : JobSetting σ) (hjob : server.jobs.lookup id = some job) :
    let result := (job.phase.step setting id (server.registry.isCancelled job.token)).run
      server.space
    ((step setting id).run server).state = ⟨result.state,
      (passed job.phase result).foldl (fun registry status => registry.update id status)
        server.registry,
      Job.assign server.jobs id { job with phase := result.value }⟩ := by
  simp only [step, hjob]

/-- A step of a job is an exchange of messages. -/
theorem Mirrors.step (h : server.Mirrors exchange) (setting : JobSetting σ) (id : JobId) :
    ∃ moves, ((step setting id).run server).state.Mirrors (Exchange.takeAll moves exchange) := by
  cases hjob : server.jobs.lookup id with
  | none =>
    refine ⟨[], ?_⟩
    simp only [Server.step, hjob]
    exact h
  | some job =>
    rw [state_step setting hjob]
    cases hphase : job.phase.status? with
    -- A job that has stopped has nothing to tell.
    | some status =>
      rw [Phase.run_step_of_ended _ _ _ _ hphase]
      simp only [passed, hphase, List.filterMap_nil, List.append_nil, List.foldl_nil]
      exact ⟨[], h.advance hjob rfl server.space⟩
    | none =>
      have hrunning : job.phase.stage = .running := by rw [Phase.stage, hphase]
      generalize hresult : (job.phase.step setting id
        (server.registry.isCancelled job.token)).run server.space = result
      obtain ⟨moves, hmoves⟩ := h.reports hjob hrunning (result.events.filterMap progressStatus?)
        fun _ => inProgress_of_mem
      -- The progress of the step is delivered first, and then the final status if there is one.
      have hassigned : (Job.assign server.jobs id job).lookup id = some job := by
        rw [Registry.lookup_assign, if_pos rfl]
      rw [passed, hphase]
      cases hvalue : result.value with
      | ended status =>
        have hfollows := Phase.follows_step setting id server.space
          (server.registry.isCancelled job.token) hphase
        rw [hresult, hvalue] at hfollows
        obtain ⟨hstopped⟩ := hfollows
        refine ⟨moves ++ delivery id status, ?_⟩
        have hfinished := hmoves.finish hassigned hrunning hstopped result.state
        rw [assign_assign] at hfinished
        rw [Exchange.takeAll_append, List.foldl_append]
        exact hfinished
      | _ =>
        refine ⟨moves, ?_⟩
        have hstage : result.value.stage = job.phase.stage := by
          rw [hrunning, hvalue]
          rfl
        have hadvanced := hmoves.advance hassigned hstage result.state
        rw [assign_assign, hvalue] at hadvanced
        rw [List.foldl_append]
        exact hadvanced

/-! ### Requests -/

/-- A new job is registered. -/
theorem Mirrors.start (h : server.Mirrors exchange) (hfresh : server.jobs.lookup id = none)
    (data : Option Files.Path) :
    (server.start id data).Mirrors (Exchange.take (.register id) exchange) := by
  obtain ⟨reports, hline⟩ := h.lines id
  rw [hfresh] at hline
  have hregister : Exchange.take (.register id) exchange = { exchange with
      registry := (server.registry.register id).2
      lines := Job.assign exchange.lines id (.opened (server.registry.register id).1) } := by
    rw [Exchange.take, Exchange.register, hline, h.quiet.asking, h.registry]
    rfl
  rw [hregister]
  exact h.assign ⟨(server.registry.register id).1, .created data⟩ server.space rfl
    ⟨h.quiet.queue, h.quiet.applying, h.quiet.asking⟩ rfl

/-- A cancellation. -/
theorem Mirrors.cancel (h : server.Mirrors exchange) (id : JobId) :
    ({ server with registry := (server.registry.cancel id).2 } : Server σ).Mirrors
      (Exchange.takeAll [.seek id, .look id] exchange) := by
  rw [Exchange.takeAll_cancel h.quiet, ← h.registry]
  exact ⟨rfl, ⟨h.quiet.queue, h.quiet.applying, h.quiet.asking⟩, h.lines⟩

theorem state_cancel (id : JobId) (server : Server σ) :
    ((Api.cancel id).run server).state =
      { server with registry := (server.registry.cancel id).2 } := by
  simp only [Api.cancel, Activity.run_bind, Activity.run_silent]
  cases (server.registry.cancel id).1 <;> rfl

theorem state_status (id : JobId) (server : Server σ) :
    ((Api.status id).run server).state = server := by
  simp only [Api.status, Activity.state, Activity.run_bind, Activity.run_silent]
  cases server.registry.status? id <;> rfl

/-- A request is an exchange of messages. -/
theorem Mirrors.handle (h : server.Mirrors exchange) {fresh : JobId}
    (hfresh : server.jobs.lookup fresh = none) (request : Request) :
    ∃ moves, ((Api.handle fresh request).run server).state.Mirrors
      (Exchange.takeAll moves exchange) := by
  rw [Api.handle]
  cases Api.Route.of? request.method request.target with
  | none => exact ⟨[], h⟩
  | some route =>
    cases route with
    | start => exact ⟨[.register fresh], h.start hfresh _⟩
    | status id =>
      refine ⟨[], ?_⟩
      rw [state_status]
      exact h
    | cancel id =>
      refine ⟨[.seek id, .look id], ?_⟩
      rw [state_cancel]
      exact h.cancel id

/-! ### What becomes of a server -/

/-- What becomes of a server by requests and by steps of its jobs, if every new job gets a name that
no job has. -/
inductive Becomes (setting : JobSetting σ) (server : Server σ) : Server σ → Prop
  | refl : Becomes setting server server
  | answered {next : Server σ} (h : Becomes setting server next) {fresh : JobId}
      (hfresh : next.jobs.lookup fresh = none) (request : Request) :
    Becomes setting server ((Api.handle fresh request).run next).state
  | stepped {next : Server σ} (h : Becomes setting server next) (id : JobId) :
    Becomes setting server ((step setting id).run next).state

variable {space : Workspace σ} {next : Server σ}

/-- Everything that happens on a server is an exchange of messages. -/
theorem Becomes.mirrors (h : Becomes setting server next) (hmirrors : server.Mirrors exchange) :
    ∃ moves, next.Mirrors (Exchange.takeAll moves exchange) := by
  induction h with
  | refl => exact ⟨[], hmirrors⟩
  | answered _ hfresh request ih =>
    obtain ⟨moves, hmoves⟩ := ih
    obtain ⟨more, hmore⟩ := hmoves.handle hfresh request
    rw [← Exchange.takeAll_append] at hmore
    exact ⟨moves ++ more, hmore⟩
  | stepped _ id ih =>
    obtain ⟨moves, hmoves⟩ := ih
    obtain ⟨more, hmore⟩ := hmoves.step setting id
    rw [← Exchange.takeAll_append] at hmore
    exact ⟨moves ++ more, hmore⟩

/-- A server always looks like some exchange. -/
theorem Becomes.mirrored (h : Becomes setting (ofWorkspace space) server) :
    ∃ moves, server.Mirrors (Exchange.takeAll moves .opened) :=
  h.mirrors (mirrors_ofWorkspace space)

/-- A final status is never taken back. -/
theorem Becomes.status_kept (h : Becomes setting (ofWorkspace space) server)
    (h' : Becomes setting server next) {status : Status}
    (hstatus : server.registry.status? id = some status) (hstopped : status.hasStopped = true) :
    next.registry.status? id = some status := by
  obtain ⟨moves, hmirrors⟩ := h.mirrored
  obtain ⟨later, hlater⟩ := h'.mirrors hmirrors
  rw [← hmirrors.registry] at hstatus
  rw [← hlater.registry]
  have hsound := Exchange.sound_opened.takeAll moves
  exact (Exchange.extends_takeAll later _).status_kept hsound (hsound.takeAll later) hstatus
    hstopped

/-- A final status is told of a job just if the job has stopped with it. -/
theorem Becomes.status?_iff (h : Becomes setting (ofWorkspace space) server) {status : Status}
    (hstopped : status.hasStopped = true) : server.registry.status? id = some status ↔
      ∃ job, server.jobs.lookup id = some job ∧ job.phase = .ended status := by
  obtain ⟨moves, hmirrors⟩ := h.mirrored
  have hsound := Exchange.sound_opened.takeAll moves
  generalize Exchange.takeAll moves .opened = exchange at hmirrors hsound
  rw [← hmirrors.registry]
  cases hjob : server.jobs.lookup id with
  | none =>
    obtain ⟨reports, hline⟩ := hmirrors.lines id
    rw [hjob] at hline
    rw [(hsound.strangers id hline).1]
    simp
  | some job =>
    obtain ⟨reports, hline⟩ := hmirrors.exists_line hjob
    have htracks := hsound.tracks id _ hline
    have hstored := htracks.stored_of_quiet hmirrors.quiet job.phase.unannounced?_stage
    constructor
    -- What was stored was sent, and a job sends a final status only when it stops.
    · intro hstatus
      have hmem := List.mem_of_getLast? (htracks.getLast?_stored hstatus hstopped)
      rw [hstored] at hmem
      obtain ⟨_, rfl⟩ | ⟨hfinal, -⟩ := htracks.of_mem_sent hmem
      · cases hstopped
      · exact ⟨job, rfl, Phase.eq_ended hfinal⟩
    · rintro ⟨_, heq, hended⟩
      obtain rfl := Option.some.inj heq
      rw [htracks.status, hstored, hended]
      simp [Line.sent, Phase.stage, Phase.status?, Stage.final?]

end Server

end PageMerge.Job
