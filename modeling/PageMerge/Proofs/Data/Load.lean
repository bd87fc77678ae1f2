import Mathlib.Data.List.Forall2
import Mathlib.Data.List.Nodup
import PageMerge.Data.Load

/-!
# What a loaded data set is like

Article data are loaded if and only if every check is passed: the header has no column twice and has
the column of identifiers, every record gives a row, and no two rows have the same identifier.

## Main results

* `load_eq_ok_iff`, `loadFile_eq_ok_iff`: the checks of a data set that is loaded
* `readRows_eq_iff`: each record gives the row at its place
* `duplicates_eq_nil_iff`: no repeated identifier is found exactly if there is none
-/

namespace PageMerge.Data

open PageMerge.Files (FileTree Path)
open PageMerge.Text (Bytes)

/-! ### Repetitions -/

section Repetitions

variable {α β : Type}

/-- A value occurs among the values as often as elements have it. -/
theorem length_filter_eq_count [BEq β] (f : α → β) (l : List α) (b : β) :
    (l.filter (f · == b)).length = (l.map f).count b := by
  rw [List.count, List.countP_map, List.countP_eq_length_filter]
  rfl

variable [DecidableEq β]

/-- Values are distinct if at most one element has each of them. -/
theorem nodup_map_iff (f : α → β) (l : List α) :
    (l.map f).Nodup ↔ ∀ b ∈ l.map f, (l.filter (f · == b)).length ≤ 1 := by
  have hcount : ∀ b, (l.map f).count b = (l.filter (f · == b)).length :=
    fun b => (length_filter_eq_count f l b).symm
  rw [List.nodup_iff_count_le_one]
  constructor
  · intro h b _
    exact hcount b ▸ h b
  · intro h b
    by_cases hb : b ∈ l.map f
    · exact hcount b ▸ h b hb
    · rw [List.count_eq_zero_of_not_mem hb]
      exact Nat.zero_le 1

/-- No repetition is found exactly if there is none. -/
theorem firstRepeated?_eq_none_iff (l : List β) : ∀ seen : List β,
    firstRepeated? seen l = none ↔ l.Nodup ∧ ∀ b ∈ l, b ∉ seen := by
  induction l with
  | nil => simp [firstRepeated?]
  | cons b rest ih =>
    intro seen
    rw [firstRepeated?]
    split
    · rename_i hseen
      simp [hseen]
    · rename_i hseen
      rw [ih, List.nodup_cons]
      constructor
      · rintro ⟨hrest, hfresh⟩
        refine ⟨⟨fun hb => hfresh b hb (List.mem_cons_self ..), hrest⟩, ?_⟩
        intro c hc
        rcases List.mem_cons.mp hc with rfl | hc
        · exact hseen
        · exact fun hmem => hfresh c hc (List.mem_cons_of_mem _ hmem)
      · rintro ⟨⟨hb, hrest⟩, hfresh⟩
        refine ⟨hrest, fun c hc hmem => ?_⟩
        rcases List.mem_cons.mp hmem with rfl | hmem
        · exact hb hc
        · exact hfresh c (List.mem_cons_of_mem _ hc) hmem

end Repetitions

/-- No repeated identifier is found exactly if there is none. -/
theorem duplicates_eq_nil_iff (rows : List Row) :
    duplicates rows = [] ↔ (rows.map Row.id).Nodup := by
  rw [nodup_map_iff, duplicates, List.filter_eq_nil_iff]
  simp only [List.mem_map, List.mem_eraseDups, decide_eq_true_eq, Nat.not_lt]
  constructor
  · rintro h _ ⟨row, hrow, rfl⟩
    have hone := h _ ⟨row.id, ⟨row, hrow, rfl⟩, rfl⟩
    rwa [List.length_map] at hone
  · rintro h _ ⟨_, ⟨row, hrow, rfl⟩, rfl⟩
    rw [List.length_map]
    exact h _ ⟨row, hrow, rfl⟩

/-! ### Rows -/

/-- Without a malformed record, each record gives the row at its place. -/
theorem readRows_eq_iff (headers : List String) (idIndex : Nat) (records : List Csv.Record) :
    ∀ rows, readRows headers idIndex records = (rows, none) ↔
      List.Forall₂ (fun record row => ∃ texts, values headers.length record = .ok texts ∧
        row = rowOf headers idIndex record.start.line texts) records rows := by
  induction records with
  | nil =>
    intro rows
    simp [readRows, eq_comm]
  | cons record records ih =>
    intro rows
    rw [readRows, List.forall₂_cons_left_iff]
    cases hvalues : values headers.length record with
    | error e => simp
    | ok texts =>
      constructor
      · intro h
        obtain ⟨rfl, hnone⟩ := Prod.mk.inj h
        exact ⟨_, _, ⟨texts, rfl, rfl⟩, (ih _).mp (Prod.ext rfl hnone), rfl⟩
      · rintro ⟨row, rest, ⟨_, hok, rfl⟩, hrest, rfl⟩
        obtain rfl := Except.ok.inj hok
        simp only [(ih rest).mpr hrest]

/-! ### Data sets -/

/-- The bytes pass every check, and this is the data set that they hold. -/
structure Loads (bytes : Bytes) (delimiter : UInt8) (idColumn : String) (data : DataSet) :
    Prop where
  delimiter_eq : data.delimiter = delimiter
  idColumn_eq : data.idColumn = idColumn
  headers_nodup : data.headers.Nodup
  ids_nodup : (data.rows.map Row.id).Nodup
  rows : ∃ records idIndex,
    splitHeader (Csv.records delimiter bytes) = .ok (data.headers, records) ∧
    data.headers.idxOf? idColumn = some idIndex ∧
    readRows data.headers idIndex records = (data.rows, none)

/-- Bytes are loaded exactly if they pass every check. -/
theorem load_eq_ok_iff (bytes : Bytes) (delimiter : UInt8) (idColumn : String) (data : DataSet) :
    (load bytes delimiter idColumn).1 = .ok data ↔ Loads bytes delimiter idColumn data := by
  constructor
  · intro h
    rw [load] at h
    split at h
    · cases h
    rename_i headers records hsplit
    split at h
    · cases h
    rename_i hcolumns
    split at h
    · cases h
    rename_i idIndex hid
    -- Malformed records come before repeated identifiers, but both keep the data from being loaded.
    generalize hread : readRows headers idIndex records = read at h
    obtain ⟨rows, error⟩ := read
    dsimp only at h
    split at h
    · cases h
    · rename_i hdup
      cases h
      exact ⟨rfl, rfl, ((firstRepeated?_eq_none_iff headers []).mp hcolumns).1,
        (duplicates_eq_nil_iff rows).mp hdup, records, idIndex, hsplit, hid, hread⟩
    · cases h
  · rintro ⟨rfl, rfl, hcolumns, hids, records, idIndex, hsplit, hid, hread⟩
    have hfresh := (firstRepeated?_eq_none_iff data.headers []).mpr ⟨hcolumns, by simp⟩
    rw [load, hsplit]
    simp only [hfresh, hid, hread, (duplicates_eq_nil_iff data.rows).mpr hids]

/-- A file is loaded exactly if it is there and its bytes pass every check. -/
theorem loadFile_eq_ok_iff (tree : FileTree) (path : Path) (delimiter : UInt8) (idColumn : String)
    (data : DataSet) :
    (loadFile tree path delimiter idColumn).1 = .ok data ↔
      ∃ content, tree.open? path = .ok (.file content) ∧
        Loads content delimiter idColumn data := by
  rw [loadFile]
  constructor
  · intro h
    split at h
    · cases h
    · cases h
    · rename_i content hopen
      exact ⟨content, hopen, (load_eq_ok_iff ..).mp h⟩
  · rintro ⟨content, hopen, hloads⟩
    rw [hopen]
    exact (load_eq_ok_iff ..).mpr hloads

end PageMerge.Data
