import PageMerge.Proofs.Csv.LineEnds
import PageMerge.Proofs.Data.Table

/-!
# Line numbers of rows

Each row of article data, and each row with a repeated identifier, is reported with the line at
which the reader began to look for its record. This is the line on which the record starts if the
record comes right after the break that ends the one before it, and each carriage return before it
has a line feed. In a text whose lines end with a carriage return and a line feed it never is, since
the record before ends with the first of both.

## Main definitions

* `Lined`: rows with the lines that are reported for their records

## Main results

* `lined_of_rowOf`: the rows that are read
* `exists_of_duplicateIds`: the rows whose identifiers are reported
* `lines_reported`: when the line of a row is the one on which its record starts
-/

namespace PageMerge.Data

open PageMerge.Csv (Closed Headed Reported StartsAt closed_iff exists_reported lineAt lineAt_lt)
open PageMerge.Text (Bytes)

/-- Rows are those of the records after the header, each with the line that is reported for its
record. -/
structure Lined (bytes : Bytes) (delimiter : UInt8) (headers : List String) (idColumn : String)
    (rows : List Row) : Prop where
  ofRecords : List.Forall₂ (RowOf headers idColumn) (Csv.records delimiter bytes).tail rows
  line : ∀ (n : Nat) (row : Row), rows[n]? = some row →
    ∃ offset, Reported delimiter bytes (n + 1) row.line offset

section Load

variable {bytes : Bytes} {delimiter : UInt8} {idColumn : String} {headers : List String}

/-- The rows of the records have the lines that are reported for these. -/
theorem lined_of_rowOf {rows : List Row}
    (h : List.Forall₂ (RowOf headers idColumn) (Csv.records delimiter bytes).tail rows) :
    Lined bytes delimiter headers idColumn rows := by
  refine ⟨h, fun n row hrow => ?_⟩
  obtain ⟨hlt, rfl⟩ := List.getElem?_eq_some_iff.mp hrow
  have hrecord : n < (Csv.records delimiter bytes).tail.length := h.length_eq ▸ hlt
  have hline := (h.get hrecord hlt).line
  rw [List.get_eq_getElem, List.get_eq_getElem] at hline
  rw [hline]
  refine exists_reported ?_
  rw [← List.getElem?_tail, List.getElem?_eq_getElem hrecord]

/-- Repeated identifiers are those of the rows of all records. -/
theorem exists_of_duplicateIds {repeated : List RepeatedId}
    (h : (load bytes delimiter idColumn).1 = .error (.duplicateIds repeated)) :
    ∃ headers rows,
      List.Forall₂ (RowOf headers idColumn) (Csv.records delimiter bytes).tail rows ∧
      repeated = duplicates rows := by
  rw [load] at h
  split at h
  · cases h
  rename_i headers records hsplit
  obtain ⟨_, rfl⟩ := splitHeader_eq_ok_iff.mp hsplit
  split at h
  · cases h
  rename_i hcolumn
  split at h
  · cases h
  rename_i idIndex hid
  generalize hread : readRows headers idIndex _ = read at h
  obtain ⟨rows, malformed⟩ := read
  dsimp only at h
  split at h
  · cases h
  · cases h
  · cases h
    exact ⟨headers, rows,
      forall₂_rowOf ((firstRepeated?_eq_none_iff headers []).mp hcolumn).1 hid hread, rfl⟩

theorem lines_of_mem_duplicates {rows : List Row} {duplicate : RepeatedId}
    (h : duplicate ∈ duplicates rows) :
    duplicate.lines = (rows.filter (·.id == duplicate.value)).map Row.line := by
  rw [duplicates_eq] at h
  obtain ⟨id, _, rfl⟩ := List.mem_map.mp h
  rfl

end Load

/-- **The lines of rows.** If article data are loaded, or are not because identifiers are repeated,
each row that was read has a line that is not past the one on which its record starts, and these are
the lines that are listed for a repeated identifier. The record starts at one place of the text, and
the line is the one of this place exactly if the record comes right after the break that ends the
record before it, and each carriage return before it has its line feed. Later records start on later
lines. -/
theorem lines_reported (bytes : Bytes) (delimiter : UInt8) (idColumn : String) :
    let loaded := (load bytes delimiter idColumn).1
    (∀ data, loaded = .ok data → Lined bytes delimiter data.headers idColumn data.rows) ∧
    (∀ repeated, loaded = .error (.duplicateIds repeated) → ∃ headers rows,
      Lined bytes delimiter headers idColumn rows ∧ ∀ duplicate ∈ repeated,
        duplicate.lines = (rows.filter (·.id == duplicate.value)).map Row.line) ∧
    ∀ n m i j, n < m → StartsAt delimiter bytes (n + 1) i → StartsAt delimiter bytes (m + 1) j →
      lineAt bytes i < lineAt bytes j := by
  intro loaded
  refine ⟨fun data h => ?_, fun repeated h => ?_, fun n m i j hnm h h' => lineAt_lt h h' hnm⟩
  · exact lined_of_rowOf ((load_eq_ok_iff ..).mp h).tableOf.rows
  · obtain ⟨headers, rows, hrows, rfl⟩ := exists_of_duplicateIds h
    exact ⟨headers, rows, lined_of_rowOf hrows, fun _ => lines_of_mem_duplicates⟩

/-- The lines of this text end with a carriage return and a line feed, and each row is reported with
the line before its own. -/
theorem line_before_row :
    let bytes := Text.Utf8.encode "id;a\r\n1;x\r\n2;y\r\n"
    (load bytes 0x3B "id").1 = .ok ⟨["id", "a"], 0x3B, "id",
      [⟨1, "1", [("id", "1"), ("a", "x")]⟩, ⟨2, "2", [("id", "2"), ("a", "y")]⟩]⟩ ∧
    StartsAt 0x3B bytes 1 6 ∧ lineAt bytes 6 = 2 ∧
    StartsAt 0x3B bytes 2 11 ∧ lineAt bytes 11 = 3 := by
  intro bytes
  have hfirst : Headed [] (bytes.take 6) := .inr ⟨rfl, by decide +kernel⟩
  have hsecond : Headed [] (bytes.take 11) := .inr ⟨rfl, by decide +kernel⟩
  refine ⟨by decide +kernel, ⟨(closed_iff hfirst).mpr ?_, ?_, 0x31, ?_⟩, ?_,
    ⟨(closed_iff hsecond).mpr ?_, ?_, 0x32, ?_⟩, ?_⟩
  all_goals decide +kernel

end PageMerge.Data
