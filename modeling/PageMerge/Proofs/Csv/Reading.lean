import Mathlib.Algebra.BigOperators.Group.List.Basic
import Mathlib.Algebra.GroupWithZero.Nat
import PageMerge.Csv.Record

/-!
# What the reader keeps

The fields of the records, without the positions at which the records begin. Bytes without a meaning
in CSV are kept wherever the reader stands, each of them once: so the fields hold as many of them as
the text that was read.

## Main definitions

* `readFrom`, `fieldsOf`: the fields of the records
* `isPlain`, `plainCount`, `plainTotal`: bytes without a meaning in CSV, and their number

## Main results

* `fields_scan`: the fields of the records, read without positions
* `plainTotal_readFrom`: no plain byte gets lost, and none is added
* `exists_readFrom_eq_cons`: what was kept for a field stays in it
-/

namespace PageMerge.Csv

open PageMerge.Text (Bytes)

/-! ### Reading without positions -/

/-- The fields of the records from a place on, where `field` was kept for the field so far, and
`fields` come before it in the record. -/
def readFrom (delimiter : UInt8) :
    (place : Place) → (field : Bytes) → (fields : List Bytes) → Bytes → List (List Bytes)
  | place, field, fields, [] => if place = .betweenRecords then [] else [fields ++ [field]]
  | place, field, fields, b :: rest =>
    match place.move delimiter b with
    | .skip next => readFrom delimiter next field fields rest
    | .keep next => readFrom delimiter next (field ++ [b]) fields rest
    | .endField => readFrom delimiter .fieldStart [] (fields ++ [field]) rest
    | .endRecord => (fields ++ [field]) :: readFrom delimiter .betweenRecords [] [] rest

section Steps

variable {delimiter b : UInt8} {place next : Place} (field : Bytes) (fields : List Bytes)
  (rest : Bytes)

theorem readFrom_skip (h : place.move delimiter b = .skip next) :
    readFrom delimiter place field fields (b :: rest) =
      readFrom delimiter next field fields rest := by
  rw [readFrom, h]

theorem readFrom_keep (h : place.move delimiter b = .keep next) :
    readFrom delimiter place field fields (b :: rest) =
      readFrom delimiter next (field ++ [b]) fields rest := by
  rw [readFrom, h]

theorem readFrom_endField (h : place.move delimiter b = .endField) :
    readFrom delimiter place field fields (b :: rest) =
      readFrom delimiter .fieldStart [] (fields ++ [field]) rest := by
  rw [readFrom, h]

theorem readFrom_endRecord (h : place.move delimiter b = .endRecord) :
    readFrom delimiter place field fields (b :: rest) =
      (fields ++ [field]) :: readFrom delimiter .betweenRecords [] [] rest := by
  rw [readFrom, h]

end Steps

/-- The byte order mark. -/
def mark : Bytes := [0xEF, 0xBB, 0xBF]

/-- The fields of the records of the bytes. -/
def fieldsOf (delimiter : UInt8) (bs : Bytes) : List (List Bytes) :=
  (records delimiter bs).map Record.fields

/-- The fields of the records that a scan finds do not depend on its positions. -/
theorem fields_scan (delimiter : UInt8) (bs : Bytes) : ∀ scan : Scan,
    (scan.records delimiter bs).map Record.fields =
      readFrom delimiter scan.place scan.field.reverse scan.fields.reverse bs := by
  induction bs with
  | nil =>
    intro scan
    rw [Scan.records, readFrom]
    split
    · rfl
    · simp [Scan.record]
  | cons b rest ih =>
    intro scan
    rw [Scan.records, readFrom, Scan.step]
    cases scan.place.move delimiter b with
    | skip next => exact ih _
    | keep next =>
      refine (ih _).trans ?_
      simp only [Scan.pass, List.reverse_cons]
    | endField =>
      refine (ih _).trans ?_
      simp only [List.reverse_cons, List.reverse_nil]
    | endRecord =>
      rw [List.map_cons, ih]
      simp [Scan.record]

/-! ### The byte order mark -/

/-- The records of bytes that start with a mark. -/
theorem records_mark (delimiter : UInt8) (bs : Bytes) :
    records delimiter (mark ++ bs) = (Scan.atStart mark.length).records delimiter bs := rfl

/-- The records of bytes that do not start with a mark. -/
theorem records_of_not_mark (delimiter : UInt8) {bs : Bytes} (h : ¬ mark <+: bs) :
    records delimiter bs = (Scan.atStart 0).records delimiter bs := by
  rw [records.eq_2]
  rintro rest rfl
  exact h ⟨rest, rfl⟩

/-- The fields of the records of bytes that start with a mark. -/
theorem fieldsOf_mark (delimiter : UInt8) (bs : Bytes) :
    fieldsOf delimiter (mark ++ bs) = readFrom delimiter .betweenRecords [] [] bs :=
  fields_scan delimiter bs (Scan.atStart 3)

/-- The fields of the records of bytes that do not start with a mark. -/
theorem fieldsOf_of_not_mark (delimiter : UInt8) {bs : Bytes} (h : ¬ mark <+: bs) :
    fieldsOf delimiter bs = readFrom delimiter .betweenRecords [] [] bs := by
  rw [fieldsOf, records_of_not_mark delimiter h]
  exact fields_scan delimiter bs (Scan.atStart 0)

/-- An ASCII byte behind a text is not part of a mark. -/
theorem mark_prefix_append_iff {b : UInt8} (hb : b.toNat < 0x80) (bs rest : Bytes) :
    mark <+: bs ++ b :: rest ↔ mark <+: bs := by
  constructor
  · intro h
    by_cases hlength : mark.length ≤ bs.length
    · exact List.prefix_of_prefix_length_le h (List.prefix_append bs _) hlength
    · have hshort : bs ++ [b] <+: bs ++ b :: rest := ⟨rest, by simp⟩
      have hmem : bs ++ [b] <+: mark := by
        refine List.prefix_of_prefix_length_le hshort h ?_
        rw [List.length_append, List.length_singleton]
        omega
      have hmark : b ∈ mark := hmem.subset (by simp)
      simp only [mark, List.mem_cons, List.not_mem_nil, or_false] at hmark
      rcases hmark with rfl | rfl | rfl <;> exact absurd hb (by decide)
  · exact fun h => h.trans (List.prefix_append ..)

/-! ### Plain bytes -/

/-- A byte without a meaning in CSV. -/
def isPlain (delimiter b : UInt8) : Bool := !(b == delimiter || b == quote || isBreak b)

/-- The number of bytes without a meaning in CSV. -/
def plainCount (delimiter : UInt8) (bs : Bytes) : Nat := bs.countP (isPlain delimiter)

/-- The number of bytes without a meaning in CSV in all fields of records. -/
def plainTotal (delimiter : UInt8) (records : List (List Bytes)) : Nat :=
  (records.map fun fields => (fields.map (plainCount delimiter)).sum).sum

section Counts

variable {delimiter : UInt8}

theorem isPlain_iff {b : UInt8} :
    isPlain delimiter b = true ↔ b ≠ delimiter ∧ b ≠ quote ∧ isBreak b = false := by
  simp [isPlain, and_assoc]

theorem plainCount_append (first second : Bytes) :
    plainCount delimiter (first ++ second) =
      plainCount delimiter first + plainCount delimiter second :=
  List.countP_append

theorem plainCount_cons (b : UInt8) (bs : Bytes) :
    plainCount delimiter (b :: bs) =
      plainCount delimiter bs + if isPlain delimiter b then 1 else 0 :=
  List.countP_cons

theorem plainTotal_cons (fields : List Bytes) (records : List (List Bytes)) :
    plainTotal delimiter (fields :: records) =
      (fields.map (plainCount delimiter)).sum + plainTotal delimiter records :=
  List.sum_cons

/-- A plain byte is kept: between quotes the reader stays there, and else it goes into a field. -/
theorem move_of_isPlain {b : UInt8} (h : isPlain delimiter b = true) (place : Place) :
    place.move delimiter b = .keep (if place = .inQuotes then .inQuotes else .inField) := by
  obtain ⟨hdelimiter, hquote, hbreak⟩ := isPlain_iff.mp h
  cases place <;> simp [Place.move, hdelimiter, hquote, hbreak]

/-- Only between records line breaks are skipped. -/
theorem eq_of_move_skip {b : UInt8} {place : Place}
    (h : place.move delimiter b = .skip .betweenRecords) : place = .betweenRecords := by
  cases place <;> simp only [Place.move] at h <;> split_ifs at h <;> first | rfl | cases h

/-- A byte that is kept belongs to a record. -/
theorem ne_of_move_keep {b : UInt8} {place next : Place}
    (h : place.move delimiter b = .keep next) : next ≠ .betweenRecords := by
  rintro rfl
  cases place <;> simp only [Place.move] at h <;> split_ifs at h <;> cases h

theorem plainCount_snoc (field : Bytes) (b : UInt8) :
    plainCount delimiter (field ++ [b]) =
      plainCount delimiter field + if isPlain delimiter b then 1 else 0 := by
  rw [plainCount_append, plainCount_cons]
  exact congrArg _ (Nat.zero_add _)

theorem sum_plainCount_snoc (fields : List Bytes) (field : Bytes) :
    ((fields ++ [field]).map (plainCount delimiter)).sum =
      (fields.map (plainCount delimiter)).sum + plainCount delimiter field := by
  rw [List.map_append, List.sum_append, List.map_singleton, List.sum_singleton]

/-- No plain byte gets lost, and none is added. -/
theorem plainTotal_readFrom (bs : Bytes) : ∀ (place : Place) (field : Bytes) (fields : List Bytes),
    (place = .betweenRecords → field = [] ∧ fields = []) →
      plainTotal delimiter (readFrom delimiter place field fields bs) =
        (fields.map (plainCount delimiter)).sum + plainCount delimiter field +
          plainCount delimiter bs := by
  induction bs with
  | nil =>
    intro place field fields hstart
    rw [readFrom]
    split
    · rename_i hplace
      obtain ⟨rfl, rfl⟩ := hstart hplace
      rfl
    · rw [plainTotal_cons, sum_plainCount_snoc]
      rfl
  | cons b rest ih =>
    intro place field fields hstart
    rw [plainCount_cons]
    -- A plain byte is kept wherever it stands; another one does not count, whatever becomes of it.
    by_cases hplain : isPlain delimiter b = true
    · rw [readFrom_keep _ _ _ (move_of_isPlain hplain place), ih, plainCount_snoc, if_pos hplain]
      · omega
      · intro h
        split at h <;> cases h
    · rw [if_neg hplain]
      cases hmove : place.move delimiter b with
      | skip next =>
        rw [readFrom_skip _ _ _ hmove]
        refine ih next field fields fun hnext => hstart ?_
        rw [hnext] at hmove
        exact eq_of_move_skip hmove
      | keep next =>
        rw [readFrom_keep _ _ _ hmove,
          ih next _ fields fun hnext => absurd hnext (ne_of_move_keep hmove), plainCount_snoc,
          if_neg hplain, Nat.add_zero, Nat.add_zero]
      | endField =>
        rw [readFrom_endField _ _ _ hmove, ih _ _ _ (fun h => by cases h), sum_plainCount_snoc]
        rfl
      | endRecord =>
        rw [readFrom_endRecord _ _ _ hmove, plainTotal_cons, sum_plainCount_snoc,
          ih _ _ _ fun _ => ⟨rfl, rfl⟩]
        simp [plainCount]

end Counts

/-! ### Fields that are being read -/

/-- What was kept for a field stays in it, and the fields before it stay what they are. -/
theorem exists_readFrom_eq_cons (delimiter : UInt8) (bs : Bytes) :
    ∀ (place : Place) (field : Bytes) (fields : List Bytes), place ≠ .betweenRecords →
      ∃ more others records, readFrom delimiter place field fields bs =
        (fields ++ (field ++ more) :: others) :: records := by
  induction bs with
  | nil =>
    intro place field fields hplace
    rw [readFrom, if_neg hplace]
    exact ⟨[], [], [], by simp⟩
  | cons b rest ih =>
    intro place field fields hplace
    cases hmove : place.move delimiter b with
    | skip next =>
      rw [readFrom_skip _ _ _ hmove]
      refine ih next field fields ?_
      rintro rfl
      exact hplace (eq_of_move_skip hmove)
    | keep next =>
      obtain ⟨more, others, records, heq⟩ := ih next (field ++ [b]) fields (ne_of_move_keep hmove)
      rw [readFrom_keep _ _ _ hmove, heq]
      exact ⟨b :: more, others, records, by simp⟩
    | endField =>
      obtain ⟨more, others, records, heq⟩ := ih .fieldStart [] (fields ++ [field]) (by simp)
      rw [readFrom_endField _ _ _ hmove, heq]
      exact ⟨[], more :: others, records, by simp⟩
    | endRecord =>
      rw [readFrom_endRecord _ _ _ hmove]
      exact ⟨[], [], readFrom delimiter .betweenRecords [] [] rest, by simp⟩

/-- If the delimiter is a quote, a field that another one follows holds a plain byte: a quote at the
start of a field opens it, and does not end it. -/
theorem plainCount_pos_of_readFrom (bs : Bytes) :
    ∀ (place : Place) (field : Bytes) (fields : List Bytes),
      (place = .inField → 0 < plainCount quote field) →
      (∀ before ∈ fields, 0 < plainCount quote before) →
        ∀ record ∈ readFrom quote place field fields bs, ∀ before ∈ record.dropLast,
          0 < plainCount quote before := by
  have hlast : ∀ (fields : List Bytes) (field : Bytes), (fields ++ [field]).dropLast = fields :=
    fun fields field => List.dropLast_concat
  induction bs with
  | nil =>
    intro place field fields hfield hfields record hrecord
    rw [readFrom] at hrecord
    split at hrecord
    · cases hrecord
    · rw [List.mem_singleton.mp hrecord, hlast]
      exact hfields
  | cons b rest ih =>
    intro place field fields hfield hfields record hrecord
    cases hmove : place.move quote b with
    | skip next =>
      rw [readFrom_skip _ _ _ hmove] at hrecord
      refine ih next field fields ?_ hfields record hrecord
      rintro rfl
      exact absurd hmove (by cases place <;> simp only [Place.move] <;> split_ifs <;> simp)
    | keep next =>
      rw [readFrom_keep _ _ _ hmove] at hrecord
      refine ih next (field ++ [b]) fields ?_ hfields record hrecord
      -- A byte that leads into a field without quotes is plain, and is kept in this field.
      rintro rfl
      have hplain : isPlain quote b = true := by
        rw [isPlain_iff]
        cases place <;> simp only [Place.move] at hmove <;> split_ifs at hmove <;> simp_all
      rw [plainCount_snoc, if_pos hplain]
      exact Nat.succ_pos _
    | endField =>
      -- At the start of a field, and behind a closing quote, the delimiter ends nothing.
      have hplace : place = .inField := by
        cases place <;> simp only [Place.move] at hmove <;> split_ifs at hmove
        rfl
      rw [readFrom_endField _ _ _ hmove] at hrecord
      refine ih .fieldStart [] (fields ++ [field]) (by simp) ?_ record hrecord
      intro before hbefore
      rcases List.mem_append.mp hbefore with hbefore | hbefore
      · exact hfields before hbefore
      · rw [List.mem_singleton.mp hbefore]
        exact hfield hplace
    | endRecord =>
      rw [readFrom_endRecord _ _ _ hmove] at hrecord
      rcases List.mem_cons.mp hrecord with rfl | hrecord
      · rw [hlast]
        exact hfields
      · exact ih .betweenRecords [] [] (by simp) (by simp) record hrecord

end PageMerge.Csv
