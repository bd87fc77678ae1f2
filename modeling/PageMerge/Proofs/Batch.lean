import PageMerge.Batch
import PageMerge.Proofs.Data.Load

/-!
# What a batch that is not refused is like

A batch passes exactly if every placeholder of the template has a value in every row and no two
articles have the same title; then there is an article for each row, in the order of the rows.

## Main results

* `unknownPlaceholders_eq_nil_iff`, `duplicateTitles_eq_nil_iff`: the two checks
* `articles_eq_ok_iff`: the articles of a batch that passes
* `zip_articles`: the rows of such a batch beside their articles
-/

namespace PageMerge.Batch

open PageMerge.Data (DataSet Row)
open PageMerge.Wiki (Article)

/-- Pairs are left without those that repeat a name, so something is left of every list. -/
theorem firstOfEach_nil_eq_nil_iff (pairs : List (String × String)) :
    firstOfEach [] pairs = [] ↔ pairs = [] := by
  cases pairs with
  | nil => simp [firstOfEach]
  | cons pair rest => simp [firstOfEach]

/-- No placeholder is unknown exactly if every row has a value for each of them. -/
theorem unknownPlaceholders_eq_nil_iff (template : Template) (rows : List Row) :
    unknownPlaceholders template rows = [] ↔
      ∀ row ∈ rows, template.render row = .ok (template.articleOf row) := by
  rw [unknownPlaceholders, List.map_eq_nil_iff, firstOfEach_nil_eq_nil_iff,
    List.flatMap_eq_nil_iff]
  refine forall₂_congr fun row _ => ?_
  rw [List.map_eq_nil_iff, Template.render]
  cases template.unknownNames row with
  | nil => simp
  | cons name rest => simp

/-- No title is repeated exactly if the titles are distinct. -/
theorem duplicateTitles_eq_nil_iff (articles : List Article) :
    duplicateTitles articles = [] ↔ (articles.map Article.title).Nodup := by
  rw [Data.nodup_map_iff, duplicateTitles, List.filterMap_eq_nil_iff]
  simp only [List.mem_eraseDups]
  refine forall₂_congr fun title _ => ?_
  rw [List.length_map]
  split <;> simp_all

/-- A batch passes exactly if every row can be rendered and the titles are distinct. -/
theorem articles_eq_ok_iff (template : Template) (data : DataSet) (articles : List Article) :
    Batch.articles template data = .ok articles ↔
      articles = data.rows.map template.articleOf ∧
      (∀ row ∈ data.rows, template.render row = .ok (template.articleOf row)) ∧
      (articles.map Article.title).Nodup := by
  rw [← unknownPlaceholders_eq_nil_iff, ← duplicateTitles_eq_nil_iff, Batch.articles]
  constructor
  · intro h
    split at h
    · rename_i hknown
      dsimp only at h
      split at h
      · rename_i htitles
        cases h
        exact ⟨rfl, hknown, htitles⟩
      · cases h
    · cases h
  · rintro ⟨rfl, hknown, htitles⟩
    simp only [hknown, htitles]

/-- Each row stands beside its own article. -/
theorem zip_articles {template : Template} {data : DataSet} {articles : List Article}
    (h : Batch.articles template data = .ok articles) :
    data.rows.zip articles = data.rows.map fun row => (row, template.articleOf row) := by
  rw [((articles_eq_ok_iff ..).mp h).1]
  exact List.map_prod_left_eq_zip.symm

end PageMerge.Batch
