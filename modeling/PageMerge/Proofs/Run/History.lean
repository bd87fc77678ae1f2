import PageMerge.Proofs.Run.Footprint

/-!
# The ledger over many runs

A run in which some row asks for another one writes its ledger over what was there. A run whose rows
are all done has no ledger to write, and takes none away: a ledger of an earlier run stays, although
its rows may have been uploaded since. So a file at the place of the ledger is about the last run
that named a ledger, unless something was dumped there.

## Main definitions

* `Turn`: one of several runs, with the workspace that it finds
* `Follows`: a run after earlier ones, with nothing put in the place of the ledger in between
* `Origin`: which of the runs has left the file at the place of the ledger

## Main results

* `Turn.ledger_or_kept`: what one run does to the place of the ledger
* `origin_of_found`: where the file comes from that a run finds there
* `ledger_of_history`: the ledger after a run that left nothing unwritten
* `ledger_outdated`: a ledger whose row was uploaded since
-/

namespace PageMerge

open PageMerge.Config (Settings)
open PageMerge.Data (DataSet)
open PageMerge.Files (FileTree Node Path)
open PageMerge.Text (Bytes)
open PageMerge.Upload (Way)
open PageMerge.Wiki (MemoryWiki WikiAccess)

variable {σ : Type}

/-! ### Several runs -/

/-- One of several runs, with the workspace that it finds. -/
structure Turn (σ : Type) where
  settings : Settings
  client : WikiAccess σ
  way : Way
  space : Workspace σ

namespace Turn

/-- What the run leads to. -/
def ended (turn : Turn σ) (paths : RunFiles) :
    Result (Workspace σ) (Except RunFault RunResult) :=
  (runWith turn.settings turn.client paths
    (turn.way.upload turn.client (uploadPlan turn.settings))).run turn.space

/-- The data that the run loads, if it can. -/
def loaded (turn : Turn σ) : Except Data.LoadError DataSet :=
  (Data.loadFile turn.space.files turn.settings.dataCsv turn.settings.delimiter
    turn.settings.idColumnHeader).1

/-- The run names a ledger with these bytes: the rows of its data that ask for another run. -/
def Names (paths : RunFiles) (turn : Turn σ) (content : Bytes) : Prop :=
  ∃ report data, (turn.ended paths).value = .ok report ∧ turn.loaded = .ok data ∧
    report.summary.ledgerPath = some paths.ledger.text ∧
    content = ledgerContent data report.outcomes

/-- The run names no ledger: it did not take place, no row asks for another run, or the ledger could
not be written. -/
def NamesNone (paths : RunFiles) (turn : Turn σ) : Prop :=
  ∀ report, (turn.ended paths).value = .ok report → report.summary.ledgerPath = none

/-- The run dumps to the place of the ledger. -/
def DumpsThere (paths : RunFiles) (turn : Turn σ) : Prop :=
  paths.ledger.place ∈ (plannedDumps turn.settings paths turn.space.files).map Path.place

instance (paths : RunFiles) (turn : Turn σ) : Decidable (turn.DumpsThere paths) :=
  inferInstanceAs (Decidable (_ ∈ List.map Path.place _))

end Turn

/-- A run follows others, the latest of them first: a file that it finds at the place of the ledger
was left there by the run before it, and the first run finds none. The file may have been taken
away, and everything else may have changed in between. -/
def Follows (paths : RunFiles) : Turn σ → List (Turn σ) → Prop
  | turn, [] => ∀ content, turn.space.files.node? paths.ledger.place ≠ some (.file content)
  | turn, before :: earlier =>
    (∀ content, turn.space.files.node? paths.ledger.place = some (.file content) →
      (before.ended paths).state.files.node? paths.ledger.place = some (.file content)) ∧
    Follows paths before earlier

/-- Which of the runs, the latest of them first, has left the file at the place of the ledger. -/
inductive Origin (paths : RunFiles) : List (Turn σ) → Bytes → Prop
  /-- The latest run has named it as its ledger. -/
  | ledger {turn : Turn σ} {earlier : List (Turn σ)} {content : Bytes}
      (hnames : turn.Names paths content) : Origin paths (turn :: earlier) content
  /-- The latest run has dumped to its place, and has named no ledger. -/
  | dump {turn : Turn σ} {earlier : List (Turn σ)} {content : Bytes}
      (hnone : turn.NamesNone paths) (hdumps : turn.DumpsThere paths) :
      Origin paths (turn :: earlier) content
  /-- The latest run has named no ledger, and an earlier one has left the file. -/
  | kept {turn : Turn σ} {earlier : List (Turn σ)} {content : Bytes}
      (hnone : turn.NamesNone paths) (hearlier : Origin paths earlier content) :
      Origin paths (turn :: earlier) content

/-! ### A single run -/

section Single

variable {paths : RunFiles} (hplaces : paths.ledger.place ≠ paths.report.place) (turn : Turn σ)

include hplaces

/-- A run that takes place accounts for its ledger. -/
theorem Turn.accounts {report : RunResult} (hreport : (turn.ended paths).value = .ok report) :
    ∃ data, Accounts turn.settings turn.client paths
      (turn.way.upload turn.client (uploadPlan turn.settings)) turn.space report data :=
  runWith_accounts hplaces (turn.way.rows_upload turn.client (uploadPlan turn.settings)) hreport

/-- A run either names its ledger, which is there when it ends, or it leaves the file at this place
as it was, unless it dumps there. -/
theorem Turn.ledger_or_kept :
    let before := turn.space.files.node? paths.ledger.place
    let after := (turn.ended paths).state.files.node? paths.ledger.place
    (∃ content, turn.Names paths content ∧ after = some (.file content)) ∨
    (turn.NamesNone paths ∧ (turn.DumpsThere paths ∨
      ∀ content, after = some (.file content) → before = some (.file content))) := by
  intro before after
  cases hvalue : (turn.ended paths).value with
  | error e =>
    refine .inr ⟨?_, ?_⟩
    · intro report hreport
      rw [hvalue] at hreport
      cases hreport
    by_cases hdumps : turn.DumpsThere paths
    · exact .inl hdumps
    · have hplace : paths.ledger.place ∉
          (unnamedWrites turn.settings paths turn.space.files).map Path.place := by
        rw [unnamedWrites, List.map_append, List.map_singleton, List.mem_append,
          List.mem_singleton]
        exact not_or.mpr ⟨hdumps, hplaces⟩
      exact .inr fun content hfile =>
        (runWith_unprepared_writes hvalue).file_of_not_mem hplace hfile
  | ok report =>
    obtain ⟨data, haccounts⟩ := turn.accounts hplaces hvalue
    cases hledger : report.summary.ledgerPath with
    | some ledger =>
      obtain ⟨rfl, hopen⟩ := haccounts.concluded.ledger ledger hledger
      exact .inl ⟨_, ⟨report, data, hvalue, haccounts.loaded, hledger, rfl⟩,
        FileTree.node?_of_open? hopen⟩
    | none =>
      refine .inr ⟨?_, ?_⟩
      · intro other hother
        obtain rfl := Except.ok.inj (hvalue.symm.trans hother)
        exact hledger
      by_cases hdumps : turn.DumpsThere paths
      · exact .inl hdumps
      -- The report, which is written last, has a place of its own.
      · refine .inr fun content hfile => ?_
        have hprepared := (haccounts.concluded.unnamed_writes hledger).file_of_not_mem
          (mt List.mem_singleton.mp hplaces) hfile
        exact (prepare_writes turn.settings turn.client paths turn.space).file_of_not_mem hdumps
          hprepared

variable {turn : Turn σ} {earlier : List (Turn σ)} {content : Bytes}

/-- A run after others, if they account for the file that it finds. -/
theorem origin_step
    (hfound : turn.space.files.node? paths.ledger.place = some (.file content) →
      Origin paths earlier content)
    (hfile : (turn.ended paths).state.files.node? paths.ledger.place = some (.file content)) :
    Origin paths (turn :: earlier) content := by
  rcases turn.ledger_or_kept hplaces with ⟨_, hnames, hwritten⟩ | ⟨hnone, hdumps | hkept⟩
  · obtain rfl := Node.file.inj (Option.some.inj (hwritten.symm.trans hfile))
    exact .ledger hnames
  · exact .dump hnone hdumps
  · exact .kept hnone (hfound (hkept content hfile))

/-- The file that a run finds at the place of the ledger was left there by one before it. -/
theorem origin_of_found (hfollows : Follows paths turn earlier)
    (hfound : turn.space.files.node? paths.ledger.place = some (.file content)) :
    Origin paths earlier content := by
  -- The induction is on the runs before; what a run finds is what the one before it has left.
  induction earlier generalizing turn with
  | nil => exact absurd hfound (hfollows content)
  | cons before earlier ih =>
    exact origin_step hplaces (ih hfollows.2) (hfollows.1 content hfound)

end Single

/-! ### Histories of runs -/

/-- After every history of runs that write their ledger and their report at the same two places, a
run that leaves nothing unwritten has written its ledger, with just the rows of its data that ask
for another run, if there are any. If there are none, a file at the place of the ledger was left by
an earlier run, as the ledger of the last one that named one, unless it was dumped there. -/
theorem ledger_of_history {paths : RunFiles} (hplaces : paths.ledger.place ≠ paths.report.place)
    {turn : Turn σ} {earlier : List (Turn σ)} (hfollows : Follows paths turn earlier)
    {report : RunResult} (hreport : (turn.ended paths).value = .ok report)
    (hunwritten : report.unwritten = []) :
    ∃ data, turn.loaded = .ok data ∧
      ((∃ row ∈ report.outcomes, row.outcome.needsRetry = true) →
        (turn.ended paths).state.files.open? paths.ledger =
          .ok (.file (ledgerContent data report.outcomes))) ∧
      ((∀ row ∈ report.outcomes, row.outcome.needsRetry = false) → ∀ content,
        (turn.ended paths).state.files.open? paths.ledger = .ok (.file content) →
          turn.DumpsThere paths ∨ Origin paths earlier content) := by
  obtain ⟨data, haccounts⟩ := turn.accounts hplaces hreport
  refine ⟨data, haccounts.loaded, ?_, ?_⟩
  · intro hretry
    have hledger := haccounts.concluded.ledgerPath_of_retry hunwritten hretry
    exact (haccounts.concluded.ledger _ hledger).2
  · intro hfinished content hopen
    have hfile := FileTree.node?_of_open? hopen
    rcases turn.ledger_or_kept hplaces with ⟨_, ⟨other, _, hother, _, hnamed, _⟩, _⟩ |
      ⟨_, hdumps | hkept⟩
    -- A run whose rows are all done names no ledger.
    · obtain rfl := Except.ok.inj (hreport.symm.trans hother)
      have hsome : report.summary.ledgerPath.isSome := by
        rw [hnamed]
        rfl
      obtain ⟨⟨row, hrow, hretry⟩, -⟩ := haccounts.concluded.ledgerPath_iff.mp hsome
      rw [hfinished row hrow] at hretry
      cases hretry
    · exact .inl hdumps
    · exact .inr (origin_of_found hplaces hfollows (hkept content hfile))

section Resumed

/-- The files of both runs. -/
def resumedFiles : RunFiles := .ofSettings (sampleSettings 0x3B)

/-- A run that is cancelled before its only row. -/
def stoppedTurn : Turn MemoryWiki :=
  ⟨sampleSettings 0x3B, MemoryWiki.client, .inTurn (some 0), sampleSpace "id;name\n1;Apple\n"⟩

/-- The next run, which takes this row from its ledger. -/
def resumedTurn : Turn MemoryWiki :=
  ⟨{ sampleSettings 0x3B with dataCsv := "errored_articles.csv" }, MemoryWiki.client, .inTurn none,
    (stoppedTurn.ended resumedFiles).state⟩

theorem resumedFiles_ne : resumedFiles.ledger.place ≠ resumedFiles.report.place := by
  decide +kernel

theorem resumedTurn_follows : Follows resumedFiles resumedTurn [stoppedTurn] := by
  have hnone : stoppedTurn.space.files.node? resumedFiles.ledger.place = none := by
    decide +kernel
  refine ⟨fun _ hfound => hfound, ?_⟩
  intro content hfile
  rw [hnone] at hfile
  cases hfile

theorem resumedTurn_value : (resumedTurn.ended resumedFiles).value =
    .ok ⟨[⟨"1", "Apple", .created⟩], ⟨1, 1, 0, 0, 0, 0, none⟩, []⟩ := by
  decide +kernel

theorem resumedTurn_open : (resumedTurn.ended resumedFiles).state.files.open? resumedFiles.ledger =
    .ok (.file (Text.Utf8.encode "id;name\n1;Apple\n")) := by
  decide +kernel

/-- The ledger that stands after the second run was left by the first one. -/
theorem ledger_of_history_resumed :
    Origin resumedFiles [stoppedTurn] (Text.Utf8.encode "id;name\n1;Apple\n") := by
  obtain ⟨data, _, _, horigin⟩ :=
    ledger_of_history resumedFiles_ne resumedTurn_follows resumedTurn_value rfl
  refine (horigin ?_ _ resumedTurn_open).resolve_left ?_
  · decide
  · decide +kernel

/-- The second run has created the page of the only row, and has left nothing unwritten, but the row
is still in the ledger. -/
theorem ledger_outdated :
    resumedFiles.ledger.place ≠ resumedFiles.report.place ∧
      Follows resumedFiles resumedTurn [stoppedTurn] ∧
      (resumedTurn.ended resumedFiles).value =
        .ok ⟨[⟨"1", "Apple", .created⟩], ⟨1, 1, 0, 0, 0, 0, none⟩, []⟩ ∧
      (Data.loadFile (resumedTurn.ended resumedFiles).state.files resumedFiles.ledger 0x3B "id").1 =
        .ok ⟨["id", "name"], 0x3B, "id", [⟨2, "1", [("id", "1"), ("name", "Apple")]⟩]⟩ := by
  refine ⟨resumedFiles_ne, resumedTurn_follows, resumedTurn_value, ?_⟩
  decide +kernel

end Resumed

end PageMerge
