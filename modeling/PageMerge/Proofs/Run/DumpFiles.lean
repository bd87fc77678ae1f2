import PageMerge.Proofs.Json.Text
import PageMerge.Proofs.Run.Account
import PageMerge.Proofs.Run.DumpNames

/-!
# Which dumps are found

The dumps of a run are written one after the other, and none of them is kept from being replaced by
a later one. So a dump is found in its file exactly if no later dump has the same name: the article
of a row may be lost to a row whose identifier looks alike, and the template to a row that is named
like its dump.

## Main definitions

* `ArticlesFound`: every article is found in the file of its row
* `TemplateFound`: the template is found in its file

## Main results

* `open?_dumped`: a dump is found unless a later one goes to its place
* `every_article_found_iff`: when the dumps of a data set have different names, and so its articles
  are found
* `article_lost`: a row whose article is lost to another row
* `downloaded_template_found_iff`: the template is found exactly if no row is named like it
* `template_lost`: a template that is lost to a row
-/

namespace PageMerge

open PageMerge.Config (Settings)
open PageMerge.Data (DataSet Row)
open PageMerge.Files (FileTree Path)
open PageMerge.Json (Value)
open PageMerge.Text (Bytes)
open PageMerge.Wiki (Article MemoryWiki TemplatePage WikiAccess)

variable {σ : Type}

/-- The bytes of a dump. -/
def dumpBytes (value : Value) : Bytes := Text.Utf8.encode value.pretty

/-! ### Dumps after each other -/

/-- A file is left as it is by dumps to other places, even if one of them is not written. -/
theorem open?_of_writeDumps {path : Path} {content : Bytes} (dumps : List (Path × Value)) :
    ∀ tree : FileTree, tree.open? path = .ok (.file content) →
      (∀ dump ∈ dumps, path.place ≠ dump.1.place) →
        (writeDumps tree dumps).2.open? path = .ok (.file content) := by
  induction dumps with
  | nil => exact fun _ h _ => h
  | cons dump dumps ih =>
    intro tree h hplaces
    obtain ⟨other, value⟩ := dump
    obtain ⟨hplace, hplaces⟩ := List.forall_mem_cons.mp hplaces
    have hfirst := FileTree.open?_of_grows h
      (FileTree.grows_writeFileWithin tree other (Text.Utf8.encode value.pretty)) hplace
    rw [writeDumps]
    generalize tree.writeFileWithin other (Text.Utf8.encode value.pretty) = written at hfirst ⊢
    obtain ⟨result, files⟩ := written
    cases result with
    | ok _ => exact ih files hfirst hplaces
    | error cause => exact hfirst

/-- A dump is found unless a later one goes to its place. -/
theorem open?_dumped {tree : FileTree} (earlier : List (Path × Value))
    {later : List (Path × Value)} {path : Path} {value : Value}
    (h : (writeDumps tree (earlier ++ (path, value) :: later)).1 = .ok ())
    (hlater : ∀ dump ∈ later, path.place ≠ dump.1.place) :
    (writeDumps tree (earlier ++ (path, value) :: later)).2.open? path =
      .ok (.file (dumpBytes value)) := by
  rw [writeDumps_append] at h ⊢
  generalize writeDumps tree earlier = start at h ⊢
  obtain ⟨result, base⟩ := start
  cases result with
  | error e => cases h
  | ok _ =>
    dsimp only at h ⊢
    rw [writeDumps] at h ⊢
    generalize hwritten : base.writeFileWithin path (Text.Utf8.encode value.pretty) = written
      at h ⊢
    obtain ⟨result, files⟩ := written
    cases result with
    | error cause => cases h
    | ok _ => exact open?_of_writeDumps later files (FileTree.open?_written hwritten) hlater

/-! ### What dumps say -/

/-- The dump of an article says whose article it is. -/
theorem rowId_of_dumpBytes {article other : Article}
    (h : dumpBytes (articleJson article) = dumpBytes (articleJson other)) :
    article.rowId = other.rowId :=
  (Json.first_member_of_pretty (Text.Utf8.encode_injective h)).2

/-- No article is dumped as a template is. -/
theorem dumpBytes_ne (article : Article) (page : TemplatePage) :
    dumpBytes (articleJson article) ≠ dumpBytes (templateJson page) := by
  intro h
  have hname := (Json.first_member_of_pretty (Text.Utf8.encode_injective h)).1
  revert hname
  decide

/-! ### Runs that are prepared -/

/-- Every article is found in the file that is named after its row. -/
def ArticlesFound (paths : RunFiles) (ready : ReadyRun) (files : FileTree) : Prop :=
  ∀ entry ∈ ready.data.rows.zip ready.articles,
    files.open? (paths.dumpDirectory.join (dumpName entry.1.id entry.1.line)) =
      .ok (.file (dumpBytes (articleJson entry.2)))

/-- The template is found in its file. -/
def TemplateFound (paths : RunFiles) (page : TemplatePage) (files : FileTree) : Prop :=
  files.open? (paths.dumpDirectory.join templateDumpName) =
    .ok (.file (dumpBytes (templateJson page)))

section Runs

variable {settings : Settings} {client : WikiAccess σ} {paths : RunFiles} {space : Workspace σ}
  {template : Template} {page : TemplatePage} {ready : ReadyRun}

/-- The files of a run that is prepared and dumps its articles. -/
abbrev dumpedFiles (settings : Settings) (paths : RunFiles) (space : Workspace σ)
    (page : TemplatePage) (ready : ReadyRun) : FileTree :=
  (writeDumps space.files (dumpsOf settings paths page ready)).2

/-- The article of a row is found unless a later row has the same name. -/
theorem Cleared.article_found (h : Cleared settings client paths space template page ready)
    (hdump : settings.dumpGeneratedArticles = true) {earlier later : List Row} {row : Row}
    (hrows : ready.data.rows = earlier ++ row :: later)
    (hlater : ∀ other ∈ later, dumpName row.id row.line ≠ dumpName other.id other.line) :
    (dumpedFiles settings paths space page ready).open?
        (paths.dumpDirectory.join (dumpName row.id row.line)) =
      .ok (.file (dumpBytes (articleJson (template.articleOf row)))) := by
  -- Earlier dumps do not matter, and the later ones are those of the later rows.
  let dumpOf (row : Row) := articleDump paths.dumpDirectory (row, template.articleOf row)
  have hdumps : dumpsOf settings paths page ready =
      (templateDumps settings paths page ++ earlier.map dumpOf) ++
        dumpOf row :: later.map dumpOf := by
    rw [dumpsOf, articleDumps, if_pos hdump, Batch.zip_articles h.passed.articles, hrows,
      List.map_map, List.map_append, List.append_assoc]
    rfl
  have hdumped := h.dumped
  rw [dumpedFiles]
  rw [hdumps] at hdumped ⊢
  refine open?_dumped _ hdumped ?_
  intro dump hmem
  obtain ⟨other, hother, rfl⟩ := List.mem_map.mp hmem
  exact fun heq => hlater other hother ((place_dump_eq_iff paths.dumpDirectory).mp heq)

/-- The articles are found exactly if their dumps have different names. -/
theorem Cleared.articlesFound_iff (h : Cleared settings client paths space template page ready)
    (hdump : settings.dumpGeneratedArticles = true) :
    ArticlesFound paths ready (dumpedFiles settings paths space page ready) ↔
      NamesDiffer ready.data.rows := by
  rw [ArticlesFound, NamesDiffer, Batch.zip_articles h.passed.articles, List.forall_mem_map]
  constructor
  -- One file holds one article, and so those of two rows are not both found in it.
  · intro hfound
    refine (List.pairwise_map.mp h.passed.accepted.ids_nodup).imp_of_mem ?_
    intro row other hrow hother hid hname
    have hrowFound := hfound row hrow
    rw [hname] at hrowFound
    exact hid (rowId_of_dumpBytes (FileTree.content_unique hrowFound (hfound other hother)))
  -- The other way round, an article is lost only to a later row that has its name.
  · intro hnames row hrow
    obtain ⟨earlier, later, hrows⟩ := List.append_of_mem hrow
    rw [hrows, List.pairwise_append] at hnames
    exact h.article_found hdump hrows (List.pairwise_cons.mp hnames.2.1).1

/-- The template is found exactly if no row is named like it. -/
theorem Cleared.templateFound_iff (h : Cleared settings client paths space template page ready)
    (htemplate : settings.dumpTemplate = true) (hdump : settings.dumpGeneratedArticles = true) :
    TemplateFound paths page (dumpedFiles settings paths space page ready) ↔
      templateRowId ∉ ready.data.rows.map Row.id := by
  rw [TemplateFound]
  constructor
  -- The article of such a row is found, as no later row has its identifier.
  · intro hfound hmem
    obtain ⟨row, hrow, hid⟩ := List.mem_map.mp hmem
    obtain ⟨earlier, later, hrows⟩ := List.append_of_mem hrow
    have hids := h.passed.accepted.ids_nodup
    rw [hrows, List.map_append, List.map_cons, List.nodup_append, List.nodup_cons] at hids
    have harticle := h.article_found hdump hrows fun other hother hname => by
      rw [hid, dumpName_eq_iff_of_isKept isKept_templateRowId, ← hid] at hname
      exact hids.2.1.1 (hname ▸ List.mem_map_of_mem hother)
    rw [hid, ← templateDumpName_eq] at harticle
    exact dumpBytes_ne _ page (FileTree.content_unique harticle hfound)
  -- The template is dumped first, so that it could be lost to any row.
  · intro hnone
    have hdumped := h.dumped
    rw [dumpedFiles]
    rw [dumpsOf, templateDumps, if_pos htemplate, List.singleton_append] at hdumped ⊢
    refine open?_dumped [] hdumped ?_
    intro dump hmem
    have hpath := List.mem_map_of_mem (f := Prod.fst) hmem
    rw [map_fst_articleDumps h.passed.articles, if_pos hdump, List.mem_map] at hpath
    obtain ⟨row, hrow, hpath⟩ := hpath
    rw [← hpath, Ne, place_templateDump_eq_iff]
    intro hid
    exact hnone (hid ▸ List.mem_map_of_mem hrow)

end Runs

/-! ### Articles that are found -/

/-- The dumps of the rows of a data set have different names exactly if no two identifiers that look
alike belong to the same line, and they do if all breaks of the file are of one kind. Whatever run
is prepared with the data set, all of its articles are found exactly if these names differ. -/
theorem every_article_found_iff {bytes : Bytes} {delimiter : UInt8} {idColumn : String}
    {data : DataSet} (h : (Data.load bytes delimiter idColumn).1 = .ok data) :
    (NamesDiffer data.rows ↔ data.rows.Pairwise fun row other =>
      ¬(LookAlike row.id other.id ∧ row.line = other.line)) ∧
    (Csv.isBreak delimiter = false → Csv.UniformBreaks bytes → NamesDiffer data.rows) ∧
    ∀ {σ : Type} (settings : Settings) (client : WikiAccess σ) (paths : RunFiles)
      (space : Workspace σ) (ready : ReadyRun),
      ((prepare settings client paths).run.run space).value = .ok ready → ready.data = data →
      settings.dumpGeneratedArticles = true →
        (ArticlesFound paths ready ((prepare settings client paths).run.run space).state.files ↔
          NamesDiffer data.rows) := by
  rw [Data.load_eq_ok_iff] at h
  refine ⟨namesDiffer_iff h.ids_nodup, namesDiffer_of_uniform h, ?_⟩
  rintro σ settings client paths space ready hready rfl hdump
  obtain ⟨template, page, hcleared⟩ := cleared_of_prepared hready
  rw [hcleared.prepared.2]
  exact hcleared.articlesFound_iff hdump

/-- An identifier that is rewritten to the characters of a kept one does not share its name, and both
articles are found. -/
theorem every_article_found_similar :
    let settings := { sampleSettings 0x3B with dumpGeneratedArticles := true }
    let paths := RunFiles.ofSettings settings
    let prepared := (prepare settings MemoryWiki.client paths).run.run
      (sampleSpace "id;name\na b;first\na_b;second\n")
    ∃ ready, prepared.value = .ok ready ∧ ready.data.rows.map Row.id = ["a b", "a_b"] ∧
      ArticlesFound paths ready prepared.state.files := by
  intro settings paths prepared
  let rows : List Row := [⟨2, "a b", [("id", "a b"), ("name", "first")]⟩,
    ⟨3, "a_b", [("id", "a_b"), ("name", "second")]⟩]
  have hload : (Data.load (Text.Utf8.encode "id;name\na b;first\na_b;second\n") 0x3B "id").1 =
      .ok ⟨["id", "name"], 0x3B, "id", rows⟩ := by
    decide +kernel
  have huniform : Csv.UniformBreaks (Text.Utf8.encode "id;name\na b;first\na_b;second\n") := by
    refine .inl ?_
    decide +kernel
  have hdata : (prepared.value.map ReadyRun.data) = .ok ⟨["id", "name"], 0x3B, "id", rows⟩ := by
    decide +kernel
  obtain ⟨ready, hready, hrows⟩ := exists_of_map_eq_ok hdata
  obtain ⟨-, hnames, hfound⟩ := every_article_found_iff hload
  refine ⟨ready, hready, ?_, ?_⟩
  · rw [hrows]
    rfl
  · exact (hfound settings MemoryWiki.client paths _ ready hready hrows rfl).mpr
      (hnames rfl huniform)

/-- If a carriage return ends the first of two rows and a line feed the header, both rows have the
same line, and of identifiers that look alike only the article of the second one is found. -/
theorem article_lost :
    let settings := { sampleSettings 0x3B with dumpGeneratedArticles := true }
    let paths := RunFiles.ofSettings settings
    let rows : List Row := [⟨2, "a b", [("id", "a b"), ("name", "first")]⟩,
      ⟨2, "a/b", [("id", "a/b"), ("name", "second")]⟩]
    let prepared := (prepare settings MemoryWiki.client paths).run.run
      (sampleSpace "id;name\na b;first\r\na/b;second\n")
    (Data.load (Text.Utf8.encode "id;name\na b;first\r\na/b;second\n") 0x3B "id").1 =
        .ok ⟨["id", "name"], 0x3B, "id", rows⟩ ∧
      dumpName "a b" 2 = dumpName "a/b" 2 ∧
      ∃ ready, prepared.value = .ok ready ∧ ready.data.rows = rows ∧
        ¬ArticlesFound paths ready prepared.state.files := by
  intro settings paths rows prepared
  have hsame : dumpName "a b" 2 = dumpName "a/b" 2 := by
    decide +kernel
  have hdata : (prepared.value.map ReadyRun.data) = .ok ⟨["id", "name"], 0x3B, "id", rows⟩ := by
    decide +kernel
  obtain ⟨ready, hready, hrows⟩ := exists_of_map_eq_ok hdata
  have hrows : ready.data.rows = rows := congrArg DataSet.rows hrows
  refine ⟨by decide +kernel, hsame, ready, hready, hrows, ?_⟩
  obtain ⟨template, page, hcleared⟩ := cleared_of_prepared hready
  rw [hcleared.prepared.2]
  intro hfound
  have hnames := (hcleared.articlesFound_iff rfl).mp hfound
  rw [hrows, NamesDiffer, List.pairwise_pair] at hnames
  exact hnames hsame

/-! ### Templates that are found -/

/-- A run that is prepared and dumps its template before its articles has downloaded it, and the
template is found exactly if no row is named like it. -/
theorem downloaded_template_found_iff (settings : Settings)
    (htemplate : settings.dumpTemplate = true) (hdump : settings.dumpGeneratedArticles = true)
    (client : WikiAccess σ) (paths : RunFiles) {space : Workspace σ} {ready : ReadyRun}
    (hready : ((prepare settings client paths).run.run space).value = .ok ready) :
    ∃ page, ((client.fetchTemplate settings.templateId).run space.wiki).value = .ok page ∧
      (TemplateFound paths page ((prepare settings client paths).run.run space).state.files ↔
        "downloaded_template" ∉ ready.data.rows.map Row.id) := by
  obtain ⟨template, page, hcleared⟩ := cleared_of_prepared hready
  refine ⟨page, hcleared.fetched, ?_⟩
  rw [hcleared.prepared.2]
  exact hcleared.templateFound_iff htemplate hdump

/-- The template is found beside the article of a row whose identifier only looks like its name. -/
theorem downloaded_template_found_beside :
    let settings := { sampleSettings 0x3B with dumpTemplate := true, dumpGeneratedArticles := true }
    let paths := RunFiles.ofSettings settings
    let prepared := (prepare settings MemoryWiki.client paths).run.run
      (sampleSpace "id;name\ndownloaded template;Apple\n")
    ∃ ready, prepared.value = .ok ready ∧ ready.data.rows.map Row.id = ["downloaded template"] ∧
      TemplateFound paths ⟨"100", "#name#", "text", "page", "storage"⟩ prepared.state.files := by
  intro settings paths prepared
  have hids : (prepared.value.map fun ready => ready.data.rows.map Row.id) =
      .ok ["downloaded template"] := by
    decide +kernel
  obtain ⟨ready, hready, hids⟩ := exists_of_map_eq_ok hids
  obtain ⟨page, hpage, hfound⟩ :=
    downloaded_template_found_iff settings rfl rfl MemoryWiki.client paths hready
  refine ⟨ready, hready, hids, ?_⟩
  cases hpage
  rw [hfound, hids]
  decide

/-- The article of a row that is named like the dump of the template replaces it. -/
theorem template_lost :
    let settings := { sampleSettings 0x3B with dumpTemplate := true, dumpGeneratedArticles := true }
    let paths := RunFiles.ofSettings settings
    let prepared := (prepare settings MemoryWiki.client paths).run.run
      (sampleSpace "id;name\ndownloaded_template;Apple\n")
    ∃ ready, prepared.value = .ok ready ∧ ready.data.rows.map Row.id = ["downloaded_template"] ∧
      ¬TemplateFound paths ⟨"100", "#name#", "text", "page", "storage"⟩ prepared.state.files := by
  intro settings paths prepared
  have hids : (prepared.value.map fun ready => ready.data.rows.map Row.id) =
      .ok ["downloaded_template"] := by
    decide +kernel
  obtain ⟨ready, hready, hids⟩ := exists_of_map_eq_ok hids
  obtain ⟨template, page, hcleared⟩ := cleared_of_prepared hready
  refine ⟨ready, hready, hids, ?_⟩
  cases hcleared.fetched
  rw [hcleared.prepared.2]
  intro hfound
  have hnone := (hcleared.templateFound_iff rfl rfl).mp hfound
  rw [hids] at hnone
  exact hnone (List.mem_singleton.mpr rfl)

end PageMerge
