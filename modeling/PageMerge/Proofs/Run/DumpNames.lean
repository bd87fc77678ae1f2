import Mathlib
import PageMerge.Proofs.Csv.Lines
import PageMerge.Proofs.Data.Load
import PageMerge.Proofs.Files.Names
import PageMerge.Run.Prepare

/-!
# Names of dumps

A dump is named after the identifier of its row. An identifier that is fit to be a name is kept; in
any other one the characters that are not fit are replaced, and the line of the row is added. So the
name tells which identifier was kept, but of a rewritten one only what it looks like and the line:
two rows share a name exactly if their identifiers are rewritten to the same characters and their
lines are equal.

Whatever the identifier is, the name is that of a file in the directory of dumps.

## Main definitions

* `shown`: what a rewritten identifier looks like
* `LookAlike`: two identifiers are rewritten to the same characters
* `NamesDiffer`: the dumps of any two rows have different names

## Main results

* `dumpName_eq_iff`: when two rows share a name
* `place_dump`: a dump stands in the directory of dumps
* `place_templateDump_eq_iff`: when a row shares the place of the template
* `namesDiffer_iff`, `namesDiffer_of_uniform`: when the dumps of a data set have different names
-/

namespace PageMerge

open PageMerge.Data (DataSet Loads Row)
open PageMerge.Files (IsName Path follow_singleton)
open PageMerge.Text (Bytes)

/-! ### Characters of names -/

/-- An identifier is the name of its dump as it is. -/
def IsKept (rowId : String) : Prop := rowId.toList.all isDumpChar = true

/-- What a rewritten identifier looks like in the name of its dump. -/
def shown (rowId : String) : List Char :=
  rowId.toList.map fun c => if isDumpChar c then c else '_'

/-- What stands behind the identifier in the name of a dump. -/
def extension : List Char := ['.', 'j', 's', 'o', 'n']

theorem toList_dumpName_of_isKept {rowId : String} (h : IsKept rowId) (line : Nat) :
    (dumpName rowId line).toList = rowId.toList ++ extension := by
  rw [IsKept] at h
  rw [dumpName, if_pos h]
  exact String.toList_append

theorem toList_dumpName_of_not_isKept {rowId : String} (h : ¬IsKept rowId) (line : Nat) :
    (dumpName rowId line).toList =
      shown rowId ++ '@' :: (Nat.toDigits 10 line ++ extension) := by
  rw [IsKept] at h
  have hname : dumpName rowId line =
      String.ofList (shown rowId) ++ "@" ++ String.ofList (Nat.toDigits 10 line) ++ ".json" := by
    rw [dumpName, if_neg h]
    rfl
  rw [hname]
  simp only [String.toList_append, String.toList_ofList, List.append_assoc]
  rfl

theorem forall_mem_extension : ∀ c ∈ extension, isDumpChar c = true := by
  rw [← List.all_eq_true]
  rfl

theorem forall_mem_shown (rowId : String) : ∀ c ∈ shown rowId, isDumpChar c = true := by
  intro c h
  rw [shown, List.mem_map] at h
  obtain ⟨d, _, rfl⟩ := h
  split
  · assumption
  · decide

/-- A line is made of digits. -/
theorem forall_mem_line (line : Nat) :
    ∀ c ∈ Nat.toDigits 10 line ++ extension, isDumpChar c = true := by
  rw [List.forall_mem_append]
  refine ⟨?_, forall_mem_extension⟩
  intro c h
  have hdigit := Nat.isDigit_of_mem_toDigits (by decide) (by decide) h
  have halpha : Text.isAlphanumeric c = true :=
    Text.isAlphanumeric_of_isAsciiAlphanumeric (by simp [Text.isAsciiAlphanumeric, Char.isAlphanum,
      hdigit])
  rw [isDumpChar, halpha]
  rfl

/-- A character that no name keeps is not among those that are kept. -/
theorem not_mem_of_forall {chars : List Char} (h : ∀ c ∈ chars, isDumpChar c = true) {c : Char}
    (hc : isDumpChar c = false) : c ∉ chars := by
  intro hmem
  rw [h c hmem] at hc
  cases hc

theorem isDumpChar_at : isDumpChar '@' = false := by
  decide +kernel

/-- The characters of a name are fit for it, but for the one before the line. -/
theorem isDumpChar_or_of_mem {rowId : String} {line : Nat} {c : Char}
    (h : c ∈ (dumpName rowId line).toList) : isDumpChar c = true ∨ c = '@' := by
  by_cases hkept : IsKept rowId
  · rw [toList_dumpName_of_isKept hkept, List.mem_append] at h
    exact .inl (h.elim (List.all_eq_true.mp hkept c) (forall_mem_extension c))
  · rw [toList_dumpName_of_not_isKept hkept, List.mem_append, List.mem_cons] at h
    rcases h with hshown | hat | hline
    · exact .inl (forall_mem_shown rowId c hshown)
    · exact .inr hat
    · exact .inl (forall_mem_line line c hline)

/-! ### Shared names -/

/-- Two identifiers are rewritten to the same characters. -/
structure LookAlike (rowId other : String) : Prop where
  rewritten : ¬IsKept rowId
  rewritten' : ¬IsKept other
  shown_eq : shown rowId = shown other

section Shared

variable {rowId other : String} {line line' : Nat}

/-- The name of a rewritten identifier is that of no kept one. -/
theorem dumpName_ne_of_isKept (h : IsKept rowId) (h' : ¬IsKept other) :
    dumpName rowId line ≠ dumpName other line' := by
  intro heq
  have hat : '@' ∈ (dumpName rowId line).toList := by
    rw [heq, toList_dumpName_of_not_isKept h']
    simp
  rw [toList_dumpName_of_isKept h] at hat
  exact not_mem_of_forall
    (List.forall_mem_append.mpr ⟨List.all_eq_true.mp h, forall_mem_extension⟩) isDumpChar_at hat

/-- Two rows share a name if they have the same identifier and it is kept, or if their identifiers
look alike and their lines are equal. -/
theorem dumpName_eq_iff : dumpName rowId line = dumpName other line' ↔
    (rowId = other ∧ IsKept rowId) ∨ (LookAlike rowId other ∧ line = line') := by
  by_cases h : IsKept rowId <;> by_cases h' : IsKept other
  · rw [← String.toList_inj, toList_dumpName_of_isKept h, toList_dumpName_of_isKept h',
      List.append_left_inj, String.toList_inj]
    exact ⟨fun heq => .inl ⟨heq, h⟩, fun heq => heq.elim And.left fun hlike =>
      absurd h hlike.1.rewritten⟩
  -- A name with a line is not one without.
  · refine iff_of_false (dumpName_ne_of_isKept h h') ?_
    rintro (⟨rfl, _⟩ | ⟨hlike, _⟩)
    · exact h' h
    · exact hlike.rewritten h
  · refine iff_of_false (Ne.symm (dumpName_ne_of_isKept h' h)) ?_
    rintro (⟨_, hkept⟩ | ⟨hlike, _⟩)
    · exact h hkept
    · exact hlike.rewritten' h'
  -- What stands before the line, and the line itself, can be told apart.
  · rw [← String.toList_inj, toList_dumpName_of_not_isKept h, toList_dumpName_of_not_isKept h',
      List.append_cons_inj_of_notMem (not_mem_of_forall (forall_mem_shown _) isDumpChar_at)
        (not_mem_of_forall (forall_mem_line _) isDumpChar_at), List.append_left_inj]
    constructor
    · rintro ⟨hshown, _, hline⟩
      have hline : line.repr = line'.repr := congrArg String.ofList hline
      exact .inr ⟨⟨h, h', hshown⟩, Nat.repr_injective hline⟩
    · rintro (⟨_, hkept⟩ | ⟨hlike, rfl⟩)
      · exact absurd hkept h
      · exact ⟨hlike.shown_eq, rfl, rfl⟩

/-- Rows with different identifiers share a name exactly if these look alike and the lines are
equal. -/
theorem dumpName_eq_iff_of_ne (h : rowId ≠ other) :
    dumpName rowId line = dumpName other line' ↔ LookAlike rowId other ∧ line = line' := by
  rw [dumpName_eq_iff, or_iff_right]
  exact fun hsame => h hsame.1

/-- A row whose identifier is kept shares its name with no other identifier. -/
theorem dumpName_eq_iff_of_isKept (h : IsKept rowId) :
    dumpName rowId line = dumpName other line' ↔ rowId = other := by
  rw [dumpName_eq_iff, or_iff_left, and_iff_left h]
  exact fun hlike => hlike.1.rewritten h

/-- The identifier whose row would share the name of the template. -/
def templateRowId : String := "downloaded_template"

theorem isKept_templateRowId : IsKept templateRowId := by
  unfold IsKept
  decide +kernel

/-- The template is dumped like the article of a row with this identifier, on any line. -/
theorem templateDumpName_eq (line : Nat) : templateDumpName = dumpName templateRowId line := by
  have hname : templateDumpName.text = dumpName templateRowId line := by
    rw [← String.toList_inj, toList_dumpName_of_isKept isKept_templateRowId]
    decide +kernel
  exact congrArg Files.Path.mk hname

end Shared

/-! ### Places of dumps -/

/-- A name that ends with the extension is that of a file. -/
theorem isName_of_toList {name : String} (front : List Char)
    (h : name.toList = front ++ extension) : IsName name := by
  have hlength : 5 ≤ name.toList.length := by
    rw [h, List.length_append]
    exact Nat.le_add_left ..
  refine ⟨?_, ?_, ?_⟩ <;>
    · rintro rfl
      revert hlength
      decide

theorem isName_dumpName (rowId : String) (line : Nat) : IsName (dumpName rowId line) := by
  by_cases h : IsKept rowId
  · exact isName_of_toList _ (toList_dumpName_of_isKept h line)
  · apply isName_of_toList (shown rowId ++ '@' :: Nat.toDigits 10 line)
    rw [toList_dumpName_of_not_isKept h, List.append_assoc, List.cons_append]

theorem slash_not_mem_dumpName (rowId : String) (line : Nat) :
    '/' ∉ (dumpName rowId line).toList := by
  intro h
  have hfit : isDumpChar '/' = false ∧ '/' ≠ '@' := by decide +kernel
  rcases isDumpChar_or_of_mem h with hdump | hat
  · rw [hfit.1] at hdump
    cases hdump
  · exact hfit.2 hat

/-- The dump of a row stands in the directory of dumps, whatever its identifier is. -/
theorem place_dump (directory : Path) (rowId : String) (line : Nat) :
    (directory.join (dumpName rowId line)).place = directory.place ++ [dumpName rowId line] := by
  rw [Path.place_join directory (slash_not_mem_dumpName rowId line),
    follow_singleton (isName_dumpName rowId line)]

/-- Dumps stand at one place exactly if they share a name. -/
theorem place_dump_eq_iff (directory : Path) {rowId other : String} {line line' : Nat} :
    (directory.join (dumpName rowId line)).place = (directory.join (dumpName other line')).place ↔
      dumpName rowId line = dumpName other line' := by
  rw [place_dump, place_dump, List.append_right_inj, List.singleton_inj]

/-- The dump of the template stands where that of a row does if the row is named like it. -/
theorem place_templateDump_eq_iff (directory : Path) {rowId : String} {line : Nat} :
    (directory.join templateDumpName).place = (directory.join (dumpName rowId line)).place ↔
      templateRowId = rowId := by
  rw [templateDumpName_eq line, place_dump_eq_iff, dumpName_eq_iff_of_isKept isKept_templateRowId]

/-! ### The rows of a data set -/

/-- The dumps of any two rows have different names. -/
def NamesDiffer (rows : List Row) : Prop :=
  rows.Pairwise fun row other => dumpName row.id row.line ≠ dumpName other.id other.line

/-- The dumps of rows with identifiers of their own have different names exactly if no two
identifiers that look alike belong to the same line. -/
theorem namesDiffer_iff {rows : List Row} (hids : (rows.map Row.id).Nodup) :
    NamesDiffer rows ↔
      rows.Pairwise fun row other => ¬(LookAlike row.id other.id ∧ row.line = other.line) := by
  have hids := List.pairwise_map.mp hids
  constructor
  · exact fun h => h.imp₂ (fun row other hne hid hlike =>
      hne ((dumpName_eq_iff_of_ne hid).mpr hlike)) hids
  · exact fun h => h.imp₂ (fun row other hlike hid heq =>
      hlike ((dumpName_eq_iff_of_ne hid).mp heq)) hids

/-- The line of a row is that of its record. -/
theorem lines_of_readRows {headers : List String} {idIndex : Nat} {records : List Csv.Record}
    {rows : List Row} (h : Data.readRows headers idIndex records = (rows, none)) :
    rows.map Row.line = records.map (·.start.line) := by
  have hrows := (Data.readRows_eq_iff headers idIndex records rows).mp h
  clear h
  induction hrows with
  | nil => rfl
  | cons hrow _ ih =>
    obtain ⟨_, _, rfl⟩ := hrow
    exact congrArg (_ :: ·) ih

/-- Rows have lines of their own if all breaks of the file are of one kind. -/
theorem pairwise_line_of_loads {bytes : Bytes} {delimiter : UInt8} {idColumn : String}
    {data : DataSet} (h : Loads bytes delimiter idColumn data)
    (hdelimiter : Csv.isBreak delimiter = false) (huniform : Csv.UniformBreaks bytes) :
    data.rows.Pairwise (·.line < ·.line) := by
  obtain ⟨records, idIndex, hsplit, _, hread⟩ := h.rows
  -- The rows are the records after the header, which alone begins where no break was passed.
  have hrecords : records.Pairwise (·.start.line < ·.start.line) := by
    cases hall : Csv.records delimiter bytes with
    | nil =>
      rw [hall, Data.splitHeader] at hsplit
      obtain rfl : [] = records := congrArg Prod.snd (Except.ok.inj hsplit)
      exact .nil
    | cons header rest =>
      rw [hall, Data.splitHeader] at hsplit
      obtain ⟨_, _, hrest⟩ := exists_of_map_eq_ok hsplit
      obtain rfl : rest = records := congrArg Prod.snd hrest
      exact Csv.pairwise_line_of_uniform hdelimiter huniform hall
  have hlines : (records.map (·.start.line)).Pairwise (· < ·) := List.pairwise_map.mpr hrecords
  rw [← lines_of_readRows hread] at hlines
  exact List.pairwise_map.mp hlines

/-- The dumps of rows have different names if all breaks of the file are of one kind. -/
theorem namesDiffer_of_uniform {bytes : Bytes} {delimiter : UInt8} {idColumn : String}
    {data : DataSet} (h : Loads bytes delimiter idColumn data)
    (hdelimiter : Csv.isBreak delimiter = false) (huniform : Csv.UniformBreaks bytes) :
    NamesDiffer data.rows := by
  rw [namesDiffer_iff h.ids_nodup]
  exact (pairwise_line_of_loads h hdelimiter huniform).imp fun hlt hsame =>
    absurd hsame.2 (Nat.ne_of_lt hlt)

end PageMerge
