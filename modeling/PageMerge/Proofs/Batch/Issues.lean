import PageMerge.Proofs.Batch
import PageMerge.Proofs.Data.Table

/-!
# What a batch is refused for

All rows of a data set have the columns of its header. So a placeholder without a column has no
value in any row, and what is reported about it names the first one. Titles are only compared if
every placeholder has a column, since the others would not be those of the pages.

## Main definitions

* `IsFilled`, `IsArticle`: texts and articles with the values of a row
* `RefusedFor`: the issues that a batch is refused for

## Main results

* `unknownPlaceholders_eq`, `duplicateTitles_eq`: the issues that the two checks find
* `articles_exact`: when a batch passes, and what is reported else
-/

namespace PageMerge.Batch

open PageMerge.Data (DataSet Row)
open PageMerge.Template (Token Tokens fill names)
open PageMerge.Text (Bytes)
open PageMerge.Wiki (Article)

/-! ### Articles -/

/-- The part of a text that a token gives for a row. -/
def Gives (row : Row) : Token → String → Prop
  | .literal text, part => part = text
  | .placeholder name, part => row.get? name = some part

/-- A text consists of what the tokens give for a row, one after the other. -/
def IsFilled (row : Row) (tokens : Tokens) (text : String) : Prop :=
  ∃ parts, List.Forall₂ (Gives row) tokens parts ∧ text = String.join parts

/-- An article has the values of a row in the place of every placeholder of a template. -/
structure IsArticle (template : Template) (row : Row) (article : Article) : Prop where
  rowId : article.rowId = row.id
  title : IsFilled row template.title article.title
  content : IsFilled row template.body article.content
  pageType : article.pageType = template.pageType
  representation : article.representation = template.representation

/-- The names of the placeholders, the title before the body. -/
def placeholderNames (template : Template) : List String :=
  names template.title ++ names template.body

/-- The titles of the articles of the rows. -/
def titles (template : Template) (rows : List Row) : List String :=
  rows.map fun row => fill row template.title

/-- The issues that a batch is refused for. -/
inductive RefusedFor (template : Template) (data : DataSet) : List Issue → Prop
  /-- Some placeholder has no column. -/
  | unknown {first : Row} {rest : List Row} {listed : List String}
      (hrows : data.rows = first :: rest)
      (hunknown : ∃ name ∈ placeholderNames template, name ∉ data.headers)
      (hlisted : FirstOccurrences (placeholderNames template) (· ∉ data.headers) listed) :
    RefusedFor template data (listed.map (.unknownPlaceholder · first.id))
  /-- Every placeholder has a column, but several rows have the same title. -/
  | duplicate {listed : List String}
      (hknown : ∀ name ∈ placeholderNames template, name ∈ data.headers)
      (htitles : ¬(titles template data.rows).Nodup)
      (hlisted : FirstOccurrences (titles template data.rows)
        (1 < (titles template data.rows).count ·) listed) :
    RefusedFor template data (listed.map fun title => .duplicateTitle title
      ((data.rows.filter fun row => fill row template.title == title).map Row.id))

/-- Something is reported about every batch that is refused. -/
theorem RefusedFor.ne_nil {template : Template} {data : DataSet} {issues : List Issue}
    (h : RefusedFor template data issues) : issues ≠ [] := by
  rw [ne_eq]
  cases h with
  | unknown _ hunknown hlisted =>
    obtain ⟨name, hname, hcolumn⟩ := hunknown
    rw [List.map_eq_nil_iff, hlisted.eq_nil_iff]
    exact fun hnone => hnone name hname hcolumn
  | duplicate _ htitles hlisted =>
    rw [List.map_eq_nil_iff, hlisted.eq_nil_iff]
    intro hnone
    refine htitles (List.nodup_iff_count_le_one.mpr fun title => ?_)
    by_cases htitle : title ∈ titles template data.rows
    · exact Nat.le_of_not_lt (hnone title htitle)
    · rw [List.count_eq_zero_of_not_mem htitle]
      exact Nat.zero_le 1

/-! ### Values of rows -/

section Rows

variable {template : Template} {headers : List String} {row : Row}

/-- A row has a value for each of its columns, and for no other name. -/
theorem get?_eq_none_iff (h : row.fields.map Prod.fst = headers) (name : String) :
    row.get? name = none ↔ name ∉ headers := by
  rw [Row.get?, List.lookup_eq_none_iff, ← h, List.mem_map]
  constructor
  · rintro hnone ⟨pair, hpair, rfl⟩
    exact absurd (hnone pair hpair) (by simp)
  · intro hnone pair hpair
    rw [bne_iff_ne]
    rintro rfl
    exact hnone ⟨pair, hpair, rfl⟩

/-- Tokens whose names are all columns are filled with values of the row. -/
theorem isFilled_fill {tokens : Tokens} (h : row.fields.map Prod.fst = headers)
    (hknown : ∀ name ∈ names tokens, name ∈ headers) : IsFilled row tokens (fill row tokens) := by
  refine ⟨tokens.map (Token.fill row), ?_, rfl⟩
  rw [List.forall₂_map_right_iff, List.forall₂_same]
  intro token htoken
  cases token with
  | literal text => rfl
  | placeholder name =>
    have hname : name ∈ names tokens := List.mem_filterMap.mpr ⟨_, htoken, rfl⟩
    obtain ⟨value, hvalue⟩ := Option.ne_none_iff_exists'.mp fun hnone =>
      (get?_eq_none_iff h name).mp hnone (hknown name hname)
    rw [Gives, Token.fill, hvalue, Option.getD_some]

theorem isArticle_articleOf (h : row.fields.map Prod.fst = headers)
    (hknown : ∀ name ∈ placeholderNames template, name ∈ headers) :
    IsArticle template row (template.articleOf row) where
  rowId := rfl
  title := isFilled_fill h fun name hname => hknown name (List.mem_append_left _ hname)
  content := isFilled_fill h fun name hname => hknown name (List.mem_append_right _ hname)
  pageType := rfl
  representation := rfl

/-- The names without a column are unknown in every row. -/
theorem unknownNames_eq (h : row.fields.map Prod.fst = headers) :
    template.unknownNames row =
      ((placeholderNames template).filter fun name => name ∉ headers).eraseDups := by
  rw [Template.unknownNames, placeholderNames]
  refine congrArg List.eraseDups (List.filter_congr fun name _ => ?_)
  rw [Bool.eq_iff_iff, Option.isNone_iff_eq_none, get?_eq_none_iff h, decide_eq_true_eq]

end Rows

/-! ### Placeholders without a column -/

/-- Nothing is left of pairs whose names were all seen. -/
theorem firstOfEach_eq_nil {seen : List String} {pairs : List (String × String)}
    (h : ∀ pair ∈ pairs, pair.1 ∈ seen) : firstOfEach seen pairs = [] := by
  induction pairs with
  | nil => rfl
  | cons pair pairs ih =>
    obtain ⟨hpair, hrest⟩ := List.forall_mem_cons.mp h
    rw [firstOfEach, if_pos hpair, ih hrest]

/-- Pairs with new and distinct names are left as they are, and nothing is left of what repeats
them. -/
theorem firstOfEach_append {pairs more : List (String × String)} : ∀ {seen : List String},
    (pairs.map Prod.fst).Nodup → (∀ pair ∈ pairs, pair.1 ∉ seen) →
      (∀ pair ∈ more, pair.1 ∈ seen ∨ pair.1 ∈ pairs.map Prod.fst) →
        firstOfEach seen (pairs ++ more) = pairs := by
  induction pairs with
  | nil =>
    intro seen _ _ hmore
    exact firstOfEach_eq_nil fun pair hpair => (hmore pair hpair).resolve_right (by simp)
  | cons first pairs ih =>
    intro seen hnodup hfresh hmore
    rw [List.map_cons, List.nodup_cons] at hnodup
    obtain ⟨hfirst, hrest⟩ := List.forall_mem_cons.mp hfresh
    rw [List.cons_append, firstOfEach, if_neg hfirst, ih hnodup.2]
    · intro pair hpair hmem
      rcases List.mem_cons.mp hmem with heq | hmem
      · exact hnodup.1 (heq ▸ List.mem_map_of_mem hpair)
      · exact hrest pair hpair hmem
    · intro pair hpair
      rcases hmore pair hpair with hmem | hmem
      · exact .inl (List.mem_cons_of_mem _ hmem)
      · rw [List.map_cons, List.mem_cons] at hmem
        rcases hmem with heq | hmem
        · exact .inl (heq ▸ List.mem_cons_self ..)
        · exact .inr hmem

/-- Every name without a column is reported for the first row. -/
theorem unknownPlaceholders_eq (template : Template) {headers : List String} {first : Row}
    {rest : List Row} (h : ∀ row ∈ first :: rest, row.fields.map Prod.fst = headers) :
    unknownPlaceholders template (first :: rest) =
      ((placeholderNames template).filter fun name => name ∉ headers).eraseDups.map
        (.unknownPlaceholder · first.id) := by
  obtain ⟨hfirst, hrest⟩ := List.forall_mem_cons.mp h
  have hunknown : template.unknownNames first = _ := unknownNames_eq hfirst
  have hordered := firstOccurrences_eraseDups_filter (placeholderNames template)
    fun name => name ∉ headers
  have hnames : ((template.unknownNames first).map fun name => (name, first.id)).map Prod.fst =
      template.unknownNames first := by
    rw [List.map_map]
    exact List.map_id _
  rw [unknownPlaceholders, List.flatMap_cons, firstOfEach_append, List.map_map, ← hunknown]
  · rfl
  · rw [hnames, hunknown]
    exact hordered.nodup
  · simp
  · -- The other rows only repeat the names of the first one.
    intro pair hpair
    obtain ⟨row, hrow, hmem⟩ := List.mem_flatMap.mp hpair
    obtain ⟨name, hname, rfl⟩ := List.mem_map.mp hmem
    rw [unknownNames_eq (hrest row hrow), ← hunknown] at hname
    exact .inr (hnames.symm ▸ hname)

/-- A batch with rows has no unknown placeholder exactly if every name is a column. -/
theorem unknownPlaceholders_cons_eq_nil_iff {template : Template} {headers : List String}
    {first : Row} {rest : List Row}
    (h : ∀ row ∈ first :: rest, row.fields.map Prod.fst = headers) :
    unknownPlaceholders template (first :: rest) = [] ↔
      ∀ name ∈ placeholderNames template, name ∈ headers := by
  have hordered := firstOccurrences_eraseDups_filter (placeholderNames template)
    fun name => name ∉ headers
  rw [unknownPlaceholders_eq template h, List.map_eq_nil_iff, hordered.eq_nil_iff]
  simp

/-! ### Titles of several rows -/

/-- Every repeated title is reported with the identifiers of all rows that have it. -/
theorem duplicateTitles_eq (template : Template) (rows : List Row) :
    duplicateTitles (rows.map template.articleOf) =
      ((titles template rows).eraseDups.filter fun title =>
        1 < (titles template rows).count title).map fun title => .duplicateTitle title
          ((rows.filter fun row => fill row template.title == title).map Row.id) := by
  have hids : ∀ title, ((rows.map template.articleOf).filter (·.title == title)).map Article.rowId =
      (rows.filter fun row => fill row template.title == title).map Row.id := by
    intro title
    rw [List.filter_map, List.map_map]
    rfl
  have hcount : ∀ title,
      ((rows.filter fun row => fill row template.title == title).map Row.id).length =
        (titles template rows).count title := by
    intro title
    rw [List.length_map, Data.length_filter_eq_count, titles]
  have htitles : (rows.map template.articleOf).map Article.title = titles template rows := by
    rw [List.map_map]
    rfl
  rw [duplicateTitles, htitles]
  simp only [hids, hcount]
  induction (titles template rows).eraseDups with
  | nil => rfl
  | cons title rest ih =>
    rw [List.filterMap_cons, List.filter_cons, ih]
    by_cases hrepeated : 1 < (titles template rows).count title <;> simp [hrepeated]

/-! ### Batches -/

section Batches

variable {template : Template} {data : DataSet}

/-- Every row of loaded data has the columns of the header. -/
theorem columns_of_load {bytes : Bytes} {delimiter : UInt8} {idColumn : String}
    (h : (Data.load bytes delimiter idColumn).1 = .ok data) :
    ∀ row ∈ data.rows, row.fields.map Prod.fst = data.headers :=
  Csv.forall_mem_of_forall₂ (P := fun _ => True) (fun _ _ hrow _ => hrow.columns)
    ((Data.load_eq_ok_iff ..).mp h).tableOf.rows fun _ _ => trivial

/-- A batch with an unknown placeholder is refused for all of them. -/
theorem refusedFor_of_unknown (h : ∀ row ∈ data.rows, row.fields.map Prod.fst = data.headers)
    (hunknown : unknownPlaceholders template data.rows ≠ []) :
    RefusedFor template data (unknownPlaceholders template data.rows) := by
  cases hrows : data.rows with
  | nil =>
    rw [hrows] at hunknown
    exact absurd rfl hunknown
  | cons first rest =>
    rw [hrows] at h hunknown
    have hordered := firstOccurrences_eraseDups_filter (placeholderNames template)
      fun name => name ∉ data.headers
    simp only [decide_eq_true_eq] at hordered
    rw [unknownPlaceholders_eq template h]
    refine .unknown hrows ?_ hordered
    rw [ne_eq, unknownPlaceholders_cons_eq_nil_iff h] at hunknown
    push Not at hunknown
    exact hunknown

/-- A batch whose placeholders are known is refused for all titles that are repeated. -/
theorem refusedFor_of_duplicate (hknown : ∀ name ∈ placeholderNames template, name ∈ data.headers)
    (htitles : ¬(titles template data.rows).Nodup) :
    RefusedFor template data (duplicateTitles (data.rows.map template.articleOf)) := by
  have hordered := firstOccurrences_filter_eraseDups (titles template data.rows)
    fun title => 1 < (titles template data.rows).count title
  simp only [decide_eq_true_eq] at hordered
  rw [duplicateTitles_eq]
  exact .duplicate hknown htitles hordered

/-- No placeholder is unknown exactly if there are no rows or every name is a column. -/
theorem unknownPlaceholders_eq_nil_iff_columns
    (h : ∀ row ∈ data.rows, row.fields.map Prod.fst = data.headers) :
    unknownPlaceholders template data.rows = [] ↔
      (data.rows = [] ∨ ∀ name ∈ placeholderNames template, name ∈ data.headers) := by
  cases hrows : data.rows with
  | nil => exact ⟨fun _ => .inl rfl, fun _ => rfl⟩
  | cons first rest =>
    rw [hrows] at h
    rw [unknownPlaceholders_cons_eq_nil_iff h]
    simp

/-- A batch passes exactly if every name is a column, unless there are no rows, and the titles are
distinct. -/
theorem articles_eq_ok_iff_columns
    (h : ∀ row ∈ data.rows, row.fields.map Prod.fst = data.headers) (articles : List Article) :
    Batch.articles template data = .ok articles ↔
      articles = data.rows.map template.articleOf ∧
      (data.rows = [] ∨ ∀ name ∈ placeholderNames template, name ∈ data.headers) ∧
      (titles template data.rows).Nodup := by
  rw [articles_eq_ok_iff, ← unknownPlaceholders_eq_nil_iff,
    unknownPlaceholders_eq_nil_iff_columns h]
  refine and_congr_right ?_
  rintro rfl
  rw [List.map_map]
  rfl

/-- What is reported about a batch that is refused. -/
theorem refusedFor_of_articles {refusal : Refusal}
    (h : ∀ row ∈ data.rows, row.fields.map Prod.fst = data.headers)
    (hrefused : Batch.articles template data = .error refusal) :
    RefusedFor template data refusal.issues := by
  rw [Batch.articles] at hrefused
  split at hrefused
  · rename_i hknown
    dsimp only at hrefused
    split at hrefused
    · cases hrefused
    · rename_i hrepeated
      obtain rfl := Except.error.inj hrefused
      rw [duplicateTitles_eq_nil_iff, List.map_map] at hrepeated
      -- Without rows no title would be repeated.
      have hrows : data.rows ≠ [] := by
        intro hnil
        rw [hnil] at hrepeated
        exact hrepeated .nil
      exact refusedFor_of_duplicate
        (((unknownPlaceholders_eq_nil_iff_columns h).mp hknown).resolve_left hrows) hrepeated
  · rename_i hunknown
    obtain rfl := Except.error.inj hrefused
    exact refusedFor_of_unknown h hunknown

end Batches

/-- **Exactness of the check.** A batch of loaded data passes exactly if there are no rows or every
placeholder has a column, and the titles are distinct. Then there is an article for each row, in the
order of the rows and with its values. Else something is reported: all placeholders without a
column, for the first row, or all repeated titles, with the rows that have them. -/
theorem articles_exact {bytes : Bytes} {delimiter : UInt8} {idColumn : String} {data : DataSet}
    (hload : (Data.load bytes delimiter idColumn).1 = .ok data) (template : Template) :
    ((∃ articles, Batch.articles template data = .ok articles) ↔
      (data.rows = [] ∨ ∀ name ∈ placeholderNames template, name ∈ data.headers) ∧
        (titles template data.rows).Nodup) ∧
    (∀ articles, Batch.articles template data = .ok articles →
      List.Forall₂ (IsArticle template) data.rows articles) ∧
    ∀ refusal, Batch.articles template data = .error refusal →
      RefusedFor template data refusal.issues ∧ refusal.issues ≠ [] := by
  have hcolumns := columns_of_load hload
  simp only [articles_eq_ok_iff_columns hcolumns]
  refine ⟨by simp, ?_, ?_⟩
  · rintro articles ⟨rfl, hknown, _⟩
    rw [List.forall₂_map_right_iff, List.forall₂_same]
    intro row hrow
    exact isArticle_articleOf (hcolumns row hrow) (hknown.resolve_left (List.ne_nil_of_mem hrow))
  · intro refusal hrefused
    have hissues := refusedFor_of_articles hcolumns hrefused
    exact ⟨hissues, hissues.ne_nil⟩

/-- Titles that repeat in turns are reported in the order of their first rows. -/
theorem articles_exact_interleaved :
    let template : Template := ⟨[.placeholder "name"], [.literal "Hello"], "page", "storage"⟩
    let bytes := Text.Utf8.encode "id;name\n1;A\n2;B\n3;A\n4;C\n5;B\n6;A\n"
    let data : DataSet := ⟨["id", "name"], 0x3B, "id",
      [⟨2, "1", [("id", "1"), ("name", "A")]⟩, ⟨3, "2", [("id", "2"), ("name", "B")]⟩,
        ⟨4, "3", [("id", "3"), ("name", "A")]⟩, ⟨5, "4", [("id", "4"), ("name", "C")]⟩,
        ⟨6, "5", [("id", "5"), ("name", "B")]⟩, ⟨7, "6", [("id", "6"), ("name", "A")]⟩]⟩
    let issues : List Issue :=
      [.duplicateTitle "A" ["1", "3", "6"], .duplicateTitle "B" ["2", "5"]]
    (Data.load bytes 0x3B "id").1 = .ok data ∧ Batch.articles template data = .error ⟨issues⟩ ∧
      RefusedFor template data issues := by
  intro template bytes data issues
  have hload : (Data.load bytes 0x3B "id").1 = .ok data := by decide +kernel
  have hrefused : Batch.articles template data = .error ⟨issues⟩ := by decide +kernel
  exact ⟨hload, hrefused, ((articles_exact hload template).2.2 _ hrefused).1⟩

end PageMerge.Batch
