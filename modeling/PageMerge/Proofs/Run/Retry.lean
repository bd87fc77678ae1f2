import PageMerge.Proofs.Run.Dumps
import PageMerge.Proofs.Run.Ledger
import PageMerge.Proofs.Upload.Retry

/-!
# Runs that take up what another one has left

A run that was cancelled, or in which calls have failed, leaves rows that need another run. A run
with these rows as its data is not refused, since the rows have passed every check before, and it
generates the same articles. Once no call is made to fail any more, both runs together have brought
about what a single run would have.

## Main definitions

* `withoutFailures`: the wiki in which no call is made to fail any more
* `TakesUp`: what a run has in common with the one whose rows it takes up

## Main results

* `articles_of_sublist`: some rows of a batch that passes are a batch that passes
* `run_again_completes`: two runs, the second of which takes up what the first has left, against one
-/

namespace PageMerge

open PageMerge.Config (Settings)
open PageMerge.Data (DataSet Row)
open PageMerge.Upload (CancelAfter Repaired SamePages unfinished uploadBatch)
open PageMerge.Wiki (Article MemoryWiki TemplatePage)

/-! ### Batches of rows that say the same -/

section Batches

variable {template : Template} {data reloaded : DataSet} {rows : List Row} {articles : List Article}

/-- Neither a row's article nor whether there is one depends on its line. -/
theorem render_congr (template : Template) {row other : Row} (h : row.content = other.content) :
    template.render row = template.render other ∧
      template.articleOf row = template.articleOf other := by
  obtain ⟨line, id, fields⟩ := row
  obtain ⟨line', id', fields'⟩ := other
  obtain ⟨rfl, rfl⟩ := Prod.mk.inj h
  exact ⟨rfl, rfl⟩

/-- Some rows of a batch that passes are a batch that passes, on whatever lines they stand. -/
theorem articles_of_sublist (h : Batch.articles template data = .ok articles)
    (hrows : rows.Sublist data.rows)
    (hsame : reloaded.rows.map Row.content = rows.map Row.content) :
    Batch.articles template reloaded = .ok (rows.map template.articleOf) := by
  obtain ⟨rfl, hrendered, htitles⟩ := (Batch.articles_eq_ok_iff ..).mp h
  rw [Batch.articles_eq_ok_iff]
  refine ⟨?_, ?_, ?_⟩
  · have hcontent : ∀ rows : List Row, rows.map template.articleOf =
        (rows.map Row.content).map fun content => template.articleOf ⟨0, content.1, content.2⟩ := by
      intro rows
      rw [List.map_map]
      rfl
    rw [hcontent rows, hcontent reloaded.rows, hsame]
  · intro row hrow
    -- Among the rows that were rendered before there is one that says the same.
    have hmem : row.content ∈ rows.map Row.content := hsame ▸ List.mem_map_of_mem hrow
    obtain ⟨other, hother, hcontent⟩ := List.mem_map.mp hmem
    obtain ⟨hrender, harticle⟩ := render_congr template hcontent
    rw [← hrender, ← harticle]
    exact hrendered other (hrows.subset hother)
  · exact ((hrows.map template.articleOf).map Article.title).nodup htitles

end Batches

/-! ### Two runs against one -/

/-- The wiki in which no call is made to fail any more. -/
def withoutFailures (wiki : MemoryWiki) : MemoryWiki := { wiki with failures := [] }

/-- A run takes up what another one has left: it works on the wiki that is left, in which no call is
made to fail any more, and uploads in the same way. It has the same template, and its data are the
rows that need another run. -/
structure TakesUp (settings : Settings) (space : Workspace MemoryWiki) (report : RunResult)
    (left : MemoryWiki) (again : Settings) (start : Workspace MemoryWiki) : Prop where
  wiki : start.wiki = withoutFailures left
  plan : uploadPlan again = uploadPlan settings
  templateId : again.templateId = settings.templateId
  template : ∀ page, space.wiki.template = some page →
    (start.store.obtain again.marks page).1.map ScannedTemplate.template =
      (space.store.obtain settings.marks page).1.map ScannedTemplate.template
  data : ∃ data reloaded,
    (Data.loadFile space.files settings.dataCsv settings.delimiter
      settings.idColumnHeader).1 = .ok data ∧
    (Data.loadFile start.files again.dataCsv again.delimiter
      again.idColumnHeader).1 = .ok reloaded ∧
    Data.SameContent data.headers (retryRows data.rows report.outcomes) reloaded

section Runs

variable {settings again : Settings} {paths : RunFiles} {space start : Workspace MemoryWiki}
  {cancel : CancelAfter} {report : RunResult} {template : Template} {page : TemplatePage}
  {ready : ReadyRun}

/-- The template that is fetched is the only one that there is. -/
theorem template_of_fetchTemplate {wiki : MemoryWiki} {id : String}
    (h : (wiki.fetchTemplate id).1 = .ok page) : wiki.template = some page := by
  simp only [MemoryWiki.fetchTemplate] at h
  split at h
  · rename_i found hfound
    obtain rfl := Except.ok.inj h
    exact (Option.filter_eq_some_iff.mp hfound).1
  · cases h

/-- Whatever else is in the wiki, the template is fetched or not. -/
theorem fetchTemplate_congr {wiki other : MemoryWiki} (h : wiki.template = other.template)
    (id : String) : (wiki.fetchTemplate id).1 = (other.fetchTemplate id).1 := by
  simp only [MemoryWiki.fetchTemplate, h]

/-- A run without failures passes what the run has passed. -/
theorem Cleared.withoutFailures
    (h : Cleared settings MemoryWiki.client paths space template page ready) :
    Cleared settings MemoryWiki.client paths
      { space with wiki := withoutFailures space.wiki } template page ready := by
  obtain ⟨other, scanned, hpage, hscanned, htemplate⟩ := h.passed.parsed
  exact ⟨⟨h.passed.loaded, ⟨other, scanned, hpage, hscanned, htemplate⟩, h.passed.articles⟩,
    h.fetched, h.dumped⟩

/-- A run that takes up what another one has left passes every check, with the articles that were
generated for these rows before. -/
theorem TakesUp.passed
    (hcleared : Cleared settings MemoryWiki.client paths space template page ready)
    {left : MemoryWiki} (hleft : left.template = space.wiki.template)
    (htakes : TakesUp settings space report left again start) :
    ∃ made : ReadyRun, made.articles = unfinished ready.articles report.outcomes ∧
      Passed again MemoryWiki.client start template made ∧
      ((MemoryWiki.client.fetchTemplate again.templateId).run start.wiki).value = .ok page := by
  obtain ⟨data, reloaded, hdata, hreloaded, -, hsame⟩ := htakes.data
  obtain rfl : data = ready.data := Except.ok.inj (hdata.symm.trans hcleared.passed.loaded)
  obtain ⟨other, scanned, hother, hscanned, htemplate⟩ := hcleared.passed.parsed
  obtain rfl : other = page := Except.ok.inj (hother.symm.trans hcleared.fetched)
  have harticles := articles_of_sublist hcleared.passed.articles
    (Upload.unfinished_sublist ready.data.rows report.outcomes) hsame
  -- The wiki that was left has the same template, and so it is fetched again.
  have hfetched : (start.wiki.fetchTemplate again.templateId).1 = .ok other := by
    have htemplates : start.wiki.template = space.wiki.template := by
      rw [htakes.wiki]
      exact hleft
    rw [htakes.templateId, fetchTemplate_congr htemplates]
    exact hother
  have hobtained := htakes.template other (template_of_fetchTemplate hother)
  rw [hscanned] at hobtained
  obtain ⟨scanned', hscanned', htemplate'⟩ := exists_of_map_eq_ok hobtained
  refine ⟨⟨reloaded, unfinished ready.articles report.outcomes⟩, rfl,
    ⟨hreloaded, ⟨other, scanned', hfetched, hscanned', htemplate'.trans htemplate⟩, ?_⟩, hfetched⟩
  rw [harticles, hcleared.passed.articles_eq, Upload.unfinished_map]

end Runs

/-- A run with the rows that another run has left does what was left. It passes every check, with
the articles that were generated for these rows before, and is not refused: only a dump that is not
written can keep it from taking place. When it takes place, each of the rows is uploaded, and the
pages are those of a single run that was not cancelled and in which no call has failed. -/
theorem run_again_completes (settings : Settings) (paths : RunFiles) (space : Workspace MemoryWiki)
    (cancel : CancelAfter) {report : RunResult} {again : Settings} {start : Workspace MemoryWiki}
    (pathsAgain : RunFiles) :
    let first := (wholeRun settings MemoryWiki.client paths cancel).run space
    let second := (wholeRun again MemoryWiki.client pathsAgain none).run start
    let single := (wholeRun settings MemoryWiki.client paths none).run
      { space with wiki := withoutFailures space.wiki }
    first.value = .ok report →
    TakesUp settings space report first.state.wiki again start →
      ∃ template ready made once,
        ((prepare settings MemoryWiki.client paths).run.run space).value = .ok ready ∧
        Passed again MemoryWiki.client start template made ∧
        made.articles = unfinished ready.articles report.outcomes ∧
        (∀ fault, second.value = .error fault → fault.isRefusal = false) ∧
        single.value = .ok once ∧
        ((((prepare again MemoryWiki.client pathsAgain).run.run start).value = .ok made ∧
            ∃ retried, second.value = .ok retried ∧
              (∀ row ∈ retried.outcomes, row.outcome.needsRetry = false) ∧
              SamePages space.wiki second.state.wiki single.state.wiki) ∨
          ((again.dumpTemplate = true ∨ again.dumpGeneratedArticles = true) ∧
            ∃ path cause, second.value = .error (.artifact path cause))) := by
  intro first second single hreport htakes
  obtain ⟨template, page, ready, hcleared⟩ := cleared_of_runWith hreport
  obtain ⟨_, hfirst, houtcomes, hleft⟩ :=
    hcleared.takes_place (uploadBatch MemoryWiki.client (uploadPlan settings) cancel)
  obtain rfl := Except.ok.inj (hfirst.symm.trans hreport)
  change first.state.wiki = _ at hleft
  obtain ⟨once, hsingle, -, hsingleWiki⟩ := hcleared.withoutFailures.takes_place
    (uploadBatch MemoryWiki.client (uploadPlan settings) none)
  change single.state.wiki = _ at hsingleWiki
  have htemplate : first.state.wiki.template = space.wiki.template := by
    rw [hleft]
    exact Upload.template_uploadFrom ..
  obtain ⟨made, hmade, hpassed, hfetched⟩ := htakes.passed hcleared htemplate
  refine ⟨template, ready, made, once, hcleared.prepared.1, hpassed, hmade, ?_⟩
  rcases hpassed.cleared_or_undumped hfetched pathsAgain
    (uploadBatch MemoryWiki.client (uploadPlan again) none) with
    hagain | ⟨dump, hdump, cause, hundumped⟩
  case inr =>
    change second.value = _ at hundumped
    refine ⟨?_, hsingle, .inr ⟨dumps_of_mem hdump, _, cause, hundumped⟩⟩
    intro fault hfault
    obtain rfl := Except.error.inj (hundumped.symm.trans hfault)
    rfl
  obtain ⟨retried, hsecond, hretried, hsecondWiki⟩ :=
    hagain.takes_place (uploadBatch MemoryWiki.client (uploadPlan again) none)
  change second.state.wiki = _ at hsecondWiki
  change second.value = _ at hsecond
  refine ⟨?_, hsingle, .inl ⟨hagain.prepared.1, retried, hsecond, ?_⟩⟩
  · intro fault hfault
    rw [hsecond] at hfault
    cases hfault
  -- Fetching the template leaves the pages, so that the three uploads can be compared.
  have hrepaired : Repaired first.state.wiki (wikiAfterFetch again MemoryWiki.client start) := by
    have hpages : (wikiAfterFetch again MemoryWiki.client start).page? = start.wiki.page? := rfl
    have hfailures :
      (wikiAfterFetch again MemoryWiki.client start).failures = start.wiki.failures := rfl
    rw [htakes.wiki] at hpages hfailures
    exact ⟨congrFun hpages, hfailures⟩
  have honce : Repaired (wikiAfterFetch settings MemoryWiki.client space)
      (wikiAfterFetch settings MemoryWiki.client
        { space with wiki := withoutFailures space.wiki }) :=
    ⟨fun _ => rfl, rfl⟩
  have htitles := ((Batch.articles_eq_ok_iff ..).mp hcleared.passed.articles).2.2
  rw [hleft] at hrepaired
  have hended := Upload.run_uploadBatch_again _ (uploadPlan settings) cancel htitles hrepaired honce
  rw [← houtcomes, ← hmade] at hended
  rw [hretried, hsecondWiki, hsingleWiki, htakes.plan]
  exact hended

/-- A call fails for the first of three rows, and the run is cancelled before the last one. The next
run uploads both from the ledger. -/
theorem run_again_completes_ledger :
    let settings := sampleSettings 0x3B
    let before := sampleSpace "id;name\n1;Apple\n2;Banana\n3;Cherry\n"
    let space := { before with wiki := before.wiki.injectFailure "Apple" .create }
    let first := (wholeRun settings MemoryWiki.client (.ofSettings settings) (some 2)).run space
    let again := { settings with
      dataCsv := "errored_articles.csv", erroredArticlesCsv := "again.csv" }
    let start := { first.state with wiki := withoutFailures first.state.wiki }
    let second := (wholeRun again MemoryWiki.client (.ofSettings again) none).run start
    let single := (wholeRun settings MemoryWiki.client (.ofSettings settings) none).run
      { space with wiki := withoutFailures space.wiki }
    second.value = .ok ⟨[⟨"1", "Apple", .created⟩, ⟨"3", "Cherry", .created⟩],
        ⟨2, 2, 0, 0, 0, 0, none⟩, []⟩ ∧
      SamePages space.wiki second.state.wiki single.state.wiki := by
  intro settings before space first again start second single
  let report : RunResult := ⟨[⟨"1", "Apple", .failed .create "Injected Create failure for 'Apple'"⟩,
    ⟨"2", "Banana", .created⟩, ⟨"3", "Cherry", .notAttempted⟩],
    ⟨3, 1, 0, 0, 1, 1, some "errored_articles.csv"⟩, []⟩
  have hreport : first.value = .ok report := by
    decide +kernel
  have hsecond : second.value = .ok ⟨[⟨"1", "Apple", .created⟩, ⟨"3", "Cherry", .created⟩],
      ⟨2, 2, 0, 0, 0, 0, none⟩, []⟩ := by
    decide +kernel
  have htakes : TakesUp settings space report first.state.wiki again start := by
    refine ⟨rfl, rfl, rfl, ?_, ?_⟩
    · intro page hpage
      obtain rfl : page = ⟨"100", "#name#", "text", "page", "storage"⟩ :=
        (Option.some.inj hpage).symm
      decide +kernel
    · refine ⟨⟨["id", "name"], 0x3B, "id", [⟨2, "1", [("id", "1"), ("name", "Apple")]⟩,
        ⟨3, "2", [("id", "2"), ("name", "Banana")]⟩, ⟨4, "3", [("id", "3"), ("name", "Cherry")]⟩]⟩,
        ⟨["id", "name"], 0x3B, "id", [⟨2, "1", [("id", "1"), ("name", "Apple")]⟩,
          ⟨3, "3", [("id", "3"), ("name", "Cherry")]⟩]⟩, ?_, ?_, rfl, rfl⟩
      · decide +kernel
      · decide +kernel
  obtain ⟨_, _, _, _, _, _, _, _, _, hended⟩ := run_again_completes settings (.ofSettings settings)
    space (some 2) (.ofSettings again) hreport htakes
  refine ⟨hsecond, ?_⟩
  rcases hended with ⟨_, _, _, _, hpages⟩ | ⟨_, _, _, hundumped⟩
  · exact hpages
  · rw [hsecond] at hundumped
    cases hundumped

end PageMerge
