import Mathlib.Data.List.Forall2
import PageMerge.Csv.Printer
import PageMerge.Proofs.Csv.Reading

/-!
# Reading back what was written

Records that are written are read back as they were, unless one of two things stands in the way.
The text must not start with a byte order mark, which would be skipped. And if the delimiter is a
quote, every field that another one follows must have a content that needs no quotes: after an empty
field the delimiter opens a field, and after the closing quote of a field it stands for a quote.

## Main definitions

* `writeAll`: the lines of records
* `Separable`: a record whose fields can be told apart if the delimiter is a quote

## Main results

* `readFrom_writeField`, `readFrom_writeRecord`: a field and a record are read as they were written
* `fieldsOf_writeAll`: records are read back as they were
-/

namespace PageMerge.Csv

open PageMerge.Text (Bytes)

/-- The lines of records. -/
def writeAll (delimiter : UInt8) (records : List (List Bytes)) : Bytes :=
  records.flatMap (writeRecord delimiter)

/-- The fields of a record can be told apart: if the delimiter is a quote, every field that another
one follows has a content that needs no quotes. -/
def Separable (delimiter : UInt8) (record : List Bytes) : Prop :=
  delimiter = quote → ∀ field ∈ record.dropLast, field ≠ [] ∧ needsQuotes delimiter field = false

section Reading

variable {delimiter : UInt8}

/-! ### Fields -/

/-- A field needs no quotes exactly if all its bytes are plain. -/
theorem needsQuotes_eq_false_iff {field : Bytes} :
    needsQuotes delimiter field = false ↔ ∀ b ∈ field, isPlain delimiter b = true := by
  simp [needsQuotes, isPlain]

/-- Plain bytes of a field without quotes are kept. -/
theorem readFrom_plain (fields : List Bytes) (rest : Bytes) (more : Bytes) :
    ∀ field, (∀ b ∈ more, isPlain delimiter b = true) →
      readFrom delimiter .inField field fields (more ++ rest) =
        readFrom delimiter .inField (field ++ more) fields rest := by
  induction more with
  | nil => simp
  | cons b more ih =>
    intro field hplain
    have hmove := move_of_isPlain (hplain b (List.mem_cons_self ..)) .inField
    rw [List.cons_append, readFrom_keep _ _ _ hmove]
    refine (ih (field ++ [b]) fun c hc => hplain c (List.mem_cons_of_mem _ hc)).trans ?_
    rw [List.append_assoc, List.singleton_append]

/-- Between quotes, doubled quotes are read as single ones. -/
theorem readFrom_doubled (fields : List Bytes) (rest : Bytes) (more : Bytes) : ∀ field,
    readFrom delimiter .inQuotes field fields (doubleQuotes more ++ rest) =
      readFrom delimiter .inQuotes (field ++ more) fields rest := by
  induction more with
  | nil => simp [doubleQuotes]
  | cons b more ih =>
    intro field
    rw [doubleQuotes]
    split
    · rename_i hquote
      subst hquote
      -- The first of two quotes seems to close the field, the second one takes this back.
      have hfirst : Place.inQuotes.move delimiter quote = .skip .afterQuote := rfl
      have hsecond : Place.afterQuote.move delimiter quote = .keep .inQuotes := rfl
      rw [List.cons_append, readFrom_skip _ _ _ hfirst, List.cons_append,
        readFrom_keep _ _ _ hsecond, ih, List.append_assoc, List.singleton_append]
    · rename_i hquote
      have hmove : Place.inQuotes.move delimiter b = .keep .inQuotes := if_neg hquote
      rw [List.cons_append, readFrom_keep _ _ _ hmove, ih, List.append_assoc,
        List.singleton_append]

/-- Where the reader stands behind a field. -/
def placeAfter (delimiter : UInt8) (start : Place) (field : Bytes) : Place :=
  if needsQuotes delimiter field then .afterQuote
  else if field = [] then start
  else .inField

/-- A place where a field can start. -/
def Place.IsStart (place : Place) : Prop := place = .betweenRecords ∨ place = .fieldStart

/-- A quote opens a field. -/
theorem Place.IsStart.move_quote {start : Place} (h : start.IsStart) :
    start.move delimiter quote = .skip .inQuotes := by
  rcases h with rfl | rfl
  · rfl
  · rfl

/-- A field is read as it was written. -/
theorem readFrom_writeField {start : Place} (hstart : start.IsStart) (field : Bytes)
    (fields : List Bytes) (rest : Bytes) :
    readFrom delimiter start [] fields (writeField delimiter field ++ rest) =
      readFrom delimiter (placeAfter delimiter start field) field fields rest := by
  rw [writeField, placeAfter]
  cases hquotes : needsQuotes delimiter field with
  | true =>
    have hclose : Place.inQuotes.move delimiter quote = .skip .afterQuote := rfl
    rw [if_pos rfl, if_pos rfl, List.cons_append, readFrom_skip _ _ _ hstart.move_quote,
      List.append_assoc, readFrom_doubled, List.nil_append, List.singleton_append,
      readFrom_skip _ _ _ hclose]
  | false =>
    rw [if_neg Bool.false_ne_true, if_neg Bool.false_ne_true]
    have hplain := needsQuotes_eq_false_iff.mp hquotes
    cases field with
    | nil => rfl
    | cons b more =>
      have hb := hplain b (List.mem_cons_self ..)
      have hne : start ≠ .inQuotes := by
        rcases hstart with rfl | rfl <;> simp
      have hmove := move_of_isPlain hb start
      rw [if_neg hne] at hmove
      rw [if_neg (List.cons_ne_nil b more), List.cons_append, readFrom_keep _ _ _ hmove]
      exact readFrom_plain fields rest more [b] fun c hc => hplain c (List.mem_cons_of_mem _ hc)

/-- A delimiter ends a field, unless it is a quote and the field is empty or between quotes. -/
theorem move_delimiter (hbreak : isBreak delimiter = false) {place : Place}
    (hplace : place ≠ .inQuotes) (hquote : delimiter = quote → place = .inField) :
    place.move delimiter delimiter = .endField := by
  by_cases hd : delimiter = quote
  · rw [hquote hd]
    simp [Place.move]
  · cases place <;> simp_all [Place.move]

/-- A line feed ends a record. -/
theorem move_lineFeed (hbreak : isBreak delimiter = false) {place : Place}
    (hplace : place ≠ .inQuotes) (hstart : place ≠ .betweenRecords) :
    place.move delimiter 0x0A = .endRecord := by
  have hne : (0x0A : UInt8) ≠ delimiter := by
    rintro rfl
    cases hbreak
  have hquote : (0x0A : UInt8) ≠ quote := by decide
  have hline : isBreak 0x0A = true := rfl
  cases place <;> simp_all [Place.move]

theorem placeAfter_ne_inQuotes {start : Place} (hstart : start.IsStart) (field : Bytes) :
    placeAfter delimiter start field ≠ .inQuotes := by
  rw [placeAfter]
  split
  · simp
  split
  · rcases hstart with rfl | rfl <;> simp
  · simp

/-! ### Records -/

theorem joinFields_singleton (field : Bytes) :
    joinFields delimiter [field] = writeField delimiter field := by
  simp [joinFields, List.intercalate]

theorem joinFields_cons_cons (field next : Bytes) (more : List Bytes) :
    joinFields delimiter (field :: next :: more) =
      writeField delimiter field ++ delimiter :: joinFields delimiter (next :: more) := by
  simp [joinFields, List.intercalate]

/-- Nothing stands in an empty line but an empty field. -/
theorem eq_of_joinFields_eq_nil {record : List Bytes} (hne : record ≠ [])
    (h : joinFields delimiter record = []) : record = [[]] := by
  cases record with
  | nil => exact absurd rfl hne
  | cons field more =>
    cases more with
    | nil =>
      rw [joinFields_singleton, writeField] at h
      split at h
      · cases h
      · rw [h]
    | cons next more =>
      rw [joinFields_cons_cons] at h
      exact absurd h (by simp)

theorem Separable.tail {field next : Bytes} {more : List Bytes}
    (h : Separable delimiter (field :: next :: more)) : Separable delimiter (next :: more) :=
  fun hd other hother => h hd other (List.mem_cons_of_mem _ hother)

/-- Where the reader stands behind a field that another one follows. -/
theorem Separable.placeAfter_eq {field next : Bytes} {more : List Bytes} {start : Place}
    (h : Separable delimiter (field :: next :: more)) (hd : delimiter = quote) :
    placeAfter delimiter start field = .inField := by
  obtain ⟨hne, hquotes⟩ := h hd field (List.mem_cons_self ..)
  rw [placeAfter, hquotes, if_neg Bool.false_ne_true, if_neg hne]

/-- The fields of a line are read as they were written. -/
theorem readFrom_joinFields (hbreak : isBreak delimiter = false) (rest : Bytes)
    (record : List Bytes) : ∀ (start : Place) (before : List Bytes), record ≠ [] →
      start.IsStart → Separable delimiter record →
      (start = .betweenRecords → joinFields delimiter record ≠ []) →
        readFrom delimiter start [] before (joinFields delimiter record ++ 0x0A :: rest) =
          (before ++ record) :: readFrom delimiter .betweenRecords [] [] rest := by
  induction record with
  | nil => exact fun _ _ hne => absurd rfl hne
  | cons field more ih =>
    intro start before _ hstart hseparable hline
    have hquotes : placeAfter delimiter start field ≠ .inQuotes :=
      placeAfter_ne_inQuotes hstart field
    cases more with
    | nil =>
      rw [joinFields_singleton] at hline ⊢
      -- Only an empty line would be passed over, and this is none.
      have hrecord : placeAfter delimiter start field ≠ .betweenRecords := by
        intro h
        rw [placeAfter] at h
        split at h
        · cases h
        · rename_i hno
          split at h
          · rename_i hnil
            refine hline h ?_
            rw [writeField, if_neg hno, hnil]
          · cases h
      have hend := move_lineFeed hbreak hquotes hrecord
      rw [readFrom_writeField hstart, readFrom_endRecord _ _ _ hend]
    | cons next more =>
      have hend := move_delimiter hbreak hquotes hseparable.placeAfter_eq
      rw [joinFields_cons_cons, List.append_assoc, readFrom_writeField hstart, List.cons_append,
        readFrom_endField _ _ _ hend,
        ih .fieldStart (before ++ [field]) (List.cons_ne_nil next more) (.inr rfl) hseparable.tail
          (by simp), List.append_assoc, List.singleton_append]

/-- A line is read as the record that it was written for. -/
theorem readFrom_writeRecord (hbreak : isBreak delimiter = false) {record : List Bytes}
    (hne : record ≠ []) (hseparable : Separable delimiter record) (rest : Bytes) :
    readFrom delimiter .betweenRecords [] [] (writeRecord delimiter record ++ rest) =
      record :: readFrom delimiter .betweenRecords [] [] rest := by
  rw [writeRecord]
  by_cases hline : joinFields delimiter record = []
  -- An empty line is written as a pair of quotes.
  · obtain rfl := eq_of_joinFields_eq_nil hne hline
    have hopen : Place.betweenRecords.move delimiter quote = .skip .inQuotes := rfl
    have hclose : Place.inQuotes.move delimiter quote = .skip .afterQuote := rfl
    have hend : Place.afterQuote.move delimiter 0x0A = .endRecord :=
      move_lineFeed hbreak (by simp) (by simp)
    rw [hline]
    change readFrom delimiter .betweenRecords [] [] (quote :: quote :: 0x0A :: rest) = _
    rw [readFrom_skip _ _ _ hopen, readFrom_skip _ _ _ hclose, readFrom_endRecord _ _ _ hend]
    rfl
  · have hempty : (joinFields delimiter record).isEmpty = false := by simpa using hline
    rw [hempty, if_neg Bool.false_ne_true, List.append_assoc]
    exact readFrom_joinFields hbreak rest record .betweenRecords [] hne (.inl rfl) hseparable
      fun _ => hline

/-- Records are read back as they were. -/
theorem readFrom_writeAll (hbreak : isBreak delimiter = false) (records : List (List Bytes))
    (hrecords : ∀ record ∈ records, record ≠ [] ∧ Separable delimiter record) :
    readFrom delimiter .betweenRecords [] [] (writeAll delimiter records) = records := by
  induction records with
  | nil => rfl
  | cons record records ih =>
    obtain ⟨hne, hseparable⟩ := hrecords record (List.mem_cons_self ..)
    rw [writeAll, List.flatMap_cons, readFrom_writeRecord hbreak hne hseparable, ← writeAll,
      ih fun other hother => hrecords other (List.mem_cons_of_mem _ hother)]

/-- Records are read back as they were, unless they seem to start with a byte order mark. -/
theorem fieldsOf_writeAll (hbreak : isBreak delimiter = false) {records : List (List Bytes)}
    (hrecords : ∀ record ∈ records, record ≠ [] ∧ Separable delimiter record)
    (hmark : ¬ mark <+: writeAll delimiter records) :
    fieldsOf delimiter (writeAll delimiter records) = records := by
  rw [fieldsOf_of_not_mark delimiter hmark]
  exact readFrom_writeAll hbreak records hrecords

end Reading

end PageMerge.Csv
