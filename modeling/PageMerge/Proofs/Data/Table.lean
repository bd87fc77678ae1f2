import PageMerge.Proofs.Data.Ledger
import PageMerge.Proofs.Occurrence

/-!
# Records as a table

The first record of article data is the header, and every other one is a row of a table with these
columns. What is loaded, or why nothing is, depends on the records alone: on the texts of their
fields, on the lines where they were looked for, and on the identifiers, which are the trimmed texts
of one column.

A malformed record is reported although identifiers before it are repeated, since they are only
compared after all records were read.

## Main definitions

* `IsText`, `cell?`: fields that are text, and the trimmed texts of a record
* `IsHeader`, `Regular`, `Identifiers`: what the records of a table are like
* `RowOf`, `TableOf`: the rows of the records, and the data set of the records
* `Accepted`, `Refused`: records that are a table, and what is wrong with others

## Main results

* `rowOf_of_values`: the row that is read from a record
* `accepted_iff`, `refused_of_load`: when data are loaded, and why they are not
* `load_reads_table`: what is loaded from the records
-/

namespace PageMerge.Data

open PageMerge.Text (Bytes trim trimWith)
open PageMerge.Text.Utf8 (decode)

/-! ### Tables -/

/-- The bytes of a field are text. -/
def IsText (field : Bytes) : Prop := ∃ text, decode field = .ok text

/-- The text of a field without blanks around it. -/
def fieldText? (field : Bytes) : Option String :=
  match decode field with
  | .ok text => some (trim text)
  | .error _ => none

/-- The trimmed text of a record in a column. -/
def cell? (column : Nat) (record : Csv.Record) : Option String :=
  record.fields[column]?.bind fieldText?

/-- The first field that is no text, and the offset of the first byte in it that starts no
character. -/
def FirstBroken (fields : List Bytes) (index offset : Nat) : Prop :=
  ∃ before field after, fields = before ++ field :: after ∧ before.length = index ∧
    (∀ other ∈ before, IsText other) ∧ decode field = .error offset

/-- The names of the columns are the fields of the first record, blanks included. -/
def IsHeader (records : List Csv.Record) (headers : List String) : Prop :=
  List.Forall₂ (fun field header => decode field = .ok header)
    ((records.head?.map Csv.Record.fields).getD []) headers

/-- A record has so many fields, and all of them are text. -/
structure Regular (width : Nat) (record : Csv.Record) : Prop where
  width : record.fields.length = width
  texts : ∀ field ∈ record.fields, IsText field

/-- What is wrong with a record. The offset of a byte is counted in the field without its ASCII
blanks. -/
inductive Malformed (width : Nat) (record : Csv.Record) : TableError → Prop
  | width (h : record.fields.length ≠ width) :
    Malformed width record (.unequalLengths record.start width record.fields.length)
  | text {index offset : Nat} (hwidth : record.fields.length = width)
      (h : FirstBroken (record.fields.map (trimWith isBlankByte)) index offset) :
    Malformed width record (.notText record.start index offset)

/-- The identifiers of records are their trimmed texts in one column. -/
def Identifiers (headers : List String) (idColumn : String) (records : List Csv.Record)
    (ids : List String) : Prop :=
  records.map (cell? (headers.idxOf idColumn)) = ids.map some

/-- A row has the trimmed texts of a record under the names of the columns. -/
structure RowOf (headers : List String) (idColumn : String) (record : Csv.Record) (row : Row) :
    Prop where
  line : row.line = record.start.line
  columns : row.fields.map Prod.fst = headers
  value : ∀ (column : Nat) (header : String), headers[column]? = some header →
    ∃ value, cell? column record = some value ∧ row.get? header = some value
  id : row.get? idColumn = some row.id

/-- A data set has the header and the rows of the records. -/
structure TableOf (delimiter : UInt8) (idColumn : String) (records : List Csv.Record)
    (data : DataSet) : Prop where
  delimiter_eq : data.delimiter = delimiter
  idColumn_eq : data.idColumn = idColumn
  header : IsHeader records data.headers
  rows : List.Forall₂ (RowOf data.headers idColumn) records.tail data.rows

/-- The records are a table with these columns, and the identifiers of its rows are distinct. -/
structure Accepted (idColumn : String) (records : List Csv.Record) (headers : List String) :
    Prop where
  header : IsHeader records headers
  columns : headers.Nodup
  mem_columns : idColumn ∈ headers
  regular : ∀ record ∈ records.tail, Regular headers.length record
  ids : ∃ ids, Identifiers headers idColumn records.tail ids ∧ ids.Nodup

/-- The first thing that is wrong with the records. -/
inductive Refused (idColumn : String) (records : List Csv.Record) : LoadError → Prop
  | header {first : Csv.Record} {index offset : Nat} (hfirst : records.head? = some first)
      (h : FirstBroken first.fields index offset) :
    Refused idColumn records (.malformed (.notText first.start index offset))
  /-- The second occurrence of the column is the first one of any column. -/
  | duplicateColumn {before after : List String} {column : String}
      (hheader : IsHeader records (before ++ column :: after)) (hdistinct : before.Nodup)
      (h : column ∈ before) :
    Refused idColumn records (.duplicateColumn column)
  | noIdColumn {headers : List String} (hheader : IsHeader records headers)
      (hcolumns : headers.Nodup) (h : idColumn ∉ headers) :
    Refused idColumn records (.noIdColumn idColumn)
  | record {headers : List String} {before after : List Csv.Record} {record : Csv.Record}
      {error : TableError} (hheader : IsHeader records headers) (hcolumns : headers.Nodup)
      (hid : idColumn ∈ headers) (hrecords : records.tail = before ++ record :: after)
      (hbefore : ∀ other ∈ before, Regular headers.length other)
      (h : Malformed headers.length record error) :
    Refused idColumn records (.malformed error)
  | duplicateIds {headers ids repeated : List String} (hheader : IsHeader records headers)
      (hcolumns : headers.Nodup) (hid : idColumn ∈ headers)
      (hregular : ∀ record ∈ records.tail, Regular headers.length record)
      (hids : Identifiers headers idColumn records.tail ids)
      (hrepeated : FirstOccurrences ids (1 < ids.count ·) repeated) (h : repeated ≠ []) :
    Refused idColumn records (.duplicateIds (repeated.map fun id =>
      ⟨id, (records.tail.filter fun record =>
        cell? (headers.idxOf idColumn) record == some id).map (·.start.line)⟩))

/-! ### Fields -/

theorem fieldText?_eq_some_iff {field : Bytes} {text : String} :
    fieldText? field = some text ↔ Reads field text := by
  constructor
  · intro h
    rw [fieldText?] at h
    split at h
    · rename_i whole hwhole
      obtain ⟨inner, hinner, htrim⟩ := Text.decode_trimWith hwhole
      exact ⟨inner, hinner, (Option.some.inj h).symm.trans htrim.symm⟩
    · cases h
  · rintro ⟨inner, hinner, rfl⟩
    obtain ⟨whole, hwhole⟩ := Text.exists_decode_of_trimWith hinner
    obtain ⟨other, hother, htrim⟩ := Text.decode_trimWith hwhole
    rw [hinner] at hother
    obtain rfl := Except.ok.inj hother
    rw [fieldText?, hwhole, htrim]

theorem isText_iff {field : Bytes} : IsText field ↔ ∃ text, fieldText? field = some text := by
  rw [IsText, fieldText?]
  cases decode field with
  | ok whole => exact ⟨fun _ => ⟨_, rfl⟩, fun _ => ⟨_, rfl⟩⟩
  | error offset => simp

/-- Fields are read as texts exactly if these are their trimmed texts. -/
theorem forall₂_reads_iff (fields : List Bytes) (texts : List String) :
    List.Forall₂ Reads fields texts ↔ fields.map fieldText? = texts.map some := by
  rw [← List.forall₂_eq_eq_eq, List.forall₂_map_left_iff, List.forall₂_map_right_iff]
  simp only [fieldText?_eq_some_iff]

/-- The first field that is no text is reported. -/
theorem firstBroken_of_fieldTexts {start : Csv.Position} {error : TableError}
    {fields : List Bytes} : ∀ {index : Nat}, fieldTexts start index fields = .error error →
      ∃ ahead offset, FirstBroken fields ahead offset ∧
        error = .notText start (index + ahead) offset := by
  induction fields with
  | nil =>
    intro index h
    cases h
  | cons field rest ih =>
    intro index h
    rw [fieldTexts] at h
    cases hfield : decode field with
    | error offset =>
      rw [hfield] at h
      exact ⟨0, offset, ⟨[], field, rest, rfl, rfl, by simp, hfield⟩, (Except.error.inj h).symm⟩
    | ok text =>
      rw [hfield] at h
      cases hrest : fieldTexts start (index + 1) rest with
      | ok texts =>
        rw [hrest] at h
        cases h
      | error other =>
        rw [hrest] at h
        obtain rfl := Except.error.inj h
        obtain ⟨ahead, offset, ⟨before, broken, after, hsplit, hlength, htexts, hbroken⟩, rfl⟩ :=
          ih hrest
        refine ⟨ahead + 1, offset, ⟨field :: before, broken, after, ?_, ?_, ?_, hbroken⟩, ?_⟩
        · rw [hsplit, List.cons_append]
        · rw [List.length_cons, hlength]
        · exact List.forall_mem_cons.mpr ⟨⟨text, hfield⟩, htexts⟩
        · rw [Nat.add_assoc, Nat.add_comm 1]

/-! ### Records -/

section Records

variable {headers : List String} {idColumn : String} {idIndex width : Nat} {record : Csv.Record}
  {texts : List String}

/-- The values of a record are its trimmed texts. -/
theorem cell?_of_values (h : values width record = .ok texts) (column : Nat) :
    cell? column record = texts[column]? := by
  have htexts := (forall₂_reads_iff ..).mp ((values_eq_ok_iff ..).mp h).2
  have hcolumn : (record.fields[column]?).map fieldText? = (texts[column]?).map some := by
    rw [← List.getElem?_map, htexts, List.getElem?_map]
  have hbind := congrArg (Option.bind · id) hcolumn
  simpa [cell?, Option.bind_map, Function.comp_def] using hbind

/-- A record has values exactly if it is regular. -/
theorem exists_values_iff : (∃ texts, values width record = .ok texts) ↔ Regular width record := by
  constructor
  · rintro ⟨texts, htexts⟩
    obtain ⟨hwidth, hreads⟩ := (values_eq_ok_iff ..).mp htexts
    refine ⟨hwidth, fun field hfield => ?_⟩
    rw [forall₂_reads_iff] at hreads
    have hmem : fieldText? field ∈ texts.map some := hreads ▸ List.mem_map_of_mem hfield
    obtain ⟨text, _, htext⟩ := List.mem_map.mp hmem
    exact isText_iff.mpr ⟨text, htext.symm⟩
  · rintro ⟨hwidth, htexts⟩
    have hall : ∀ fields : List Bytes, (∀ field ∈ fields, IsText field) →
        ∃ texts : List String, fields.map fieldText? = texts.map some := by
      intro fields hfields
      induction fields with
      | nil => exact ⟨[], rfl⟩
      | cons field rest ih =>
        obtain ⟨hfield, hrest⟩ := List.forall_mem_cons.mp hfields
        obtain ⟨text, htext⟩ := isText_iff.mp hfield
        obtain ⟨texts, htexts⟩ := ih hrest
        exact ⟨text :: texts, by rw [List.map_cons, List.map_cons, htext, htexts]⟩
    obtain ⟨texts, htexts⟩ := hall record.fields htexts
    exact ⟨texts, (values_eq_ok_iff ..).mpr ⟨hwidth, (forall₂_reads_iff ..).mpr htexts⟩⟩

/-- A record without values is malformed. -/
theorem malformed_of_values {error : TableError} (h : values width record = .error error) :
    Malformed width record error := by
  rw [values] at h
  split at h
  · rename_i hwidth
    obtain rfl := Except.error.inj h
    exact .width hwidth
  · rename_i hwidth
    rw [not_not] at hwidth
    cases hfields : fieldTexts record.start 0 (record.fields.map (trimWith isBlankByte)) with
    | ok whole =>
      rw [hfields] at h
      cases h
    | error other =>
      rw [hfields] at h
      obtain rfl := Except.error.inj h
      obtain ⟨ahead, offset, hbroken, rfl⟩ := firstBroken_of_fieldTexts hfields
      rw [Nat.zero_add]
      exact .text hwidth hbroken

/-- The row that is read from a record. -/
theorem rowOf_of_values (hnodup : headers.Nodup) (hid : headers.idxOf? idColumn = some idIndex)
    (h : values headers.length record = .ok texts) :
    RowOf headers idColumn record (rowOf headers idIndex record.start.line texts) := by
  obtain ⟨hwidth, hreads⟩ := (values_eq_ok_iff ..).mp h
  have hlength : texts.length = headers.length := hreads.length_eq.symm.trans hwidth
  have hvalue : ∀ (column : Nat) (header : String), headers[column]? = some header →
      ∃ value, texts[column]? = some value ∧ (headers.zip texts).lookup header = some value := by
    intro column header hheader
    have hlt : column < texts.length := hlength ▸ (List.getElem?_eq_some_iff.mp hheader).1
    refine ⟨texts[column], List.getElem?_eq_getElem hlt, ?_⟩
    rw [lookup_zip hnodup hlength hheader, List.getElem?_eq_getElem hlt]
  refine ⟨rfl, List.map_fst_zip (Nat.le_of_eq hlength.symm), ?_, ?_⟩
  · intro column header hheader
    rw [cell?_of_values h]
    exact hvalue column header hheader
  · obtain ⟨hlt, heq, _⟩ := List.idxOf?_eq_some_iff.mp hid
    obtain ⟨value, htext, hlookup⟩ := hvalue idIndex idColumn (heq ▸ List.getElem?_eq_getElem hlt)
    rw [Row.get?, rowOf, hlookup, htext, Option.getD_some]

/-- The identifier of a row is the text of its record in the column of identifiers. -/
theorem RowOf.cell?_id {row : Row} (h : RowOf headers idColumn record row)
    (hid : idColumn ∈ headers) : cell? (headers.idxOf idColumn) record = some row.id := by
  obtain ⟨value, hcell, hvalue⟩ := h.value _ _ (List.getElem?_idxOf hid)
  rw [hcell, ← hvalue, h.id]

end Records

/-! ### Rows -/

section Rows

variable {headers : List String} {idColumn : String} {idIndex : Nat} {records : List Csv.Record}
  {rows : List Row}

/-- All records give rows exactly if they are regular. -/
theorem exists_readRows_iff : (∃ rows, readRows headers idIndex records = (rows, none)) ↔
    ∀ record ∈ records, Regular headers.length record := by
  simp only [readRows_eq_iff]
  induction records with
  | nil => simp
  | cons record records ih =>
    rw [List.forall_mem_cons, ← exists_values_iff, ← ih]
    constructor
    · rintro ⟨rows, hrows⟩
      obtain ⟨_, rest, ⟨texts, htexts, _⟩, hrest, _⟩ := List.forall₂_cons_left_iff.mp hrows
      exact ⟨⟨texts, htexts⟩, rest, hrest⟩
    · rintro ⟨⟨texts, htexts⟩, rest, hrest⟩
      exact ⟨_ :: rest, .cons ⟨texts, htexts, rfl⟩ hrest⟩

/-- Reading ends at the first record that is malformed. -/
theorem exists_of_readRows_error {error : TableError} : ∀ {rows : List Row},
    readRows headers idIndex records = (rows, some error) →
      ∃ before record after, records = before ++ record :: after ∧
        (∀ other ∈ before, Regular headers.length other) ∧
          Malformed headers.length record error := by
  induction records with
  | nil =>
    intro rows h
    cases h
  | cons record records ih =>
    intro rows h
    rw [readRows] at h
    cases hvalues : values headers.length record with
    | error other =>
      rw [hvalues] at h
      obtain rfl := Option.some.inj (Prod.mk.inj h).2
      exact ⟨[], record, records, rfl, by simp, malformed_of_values hvalues⟩
    | ok texts =>
      rw [hvalues] at h
      obtain ⟨before, broken, after, rfl, hbefore, hbroken⟩ :=
        ih (Prod.ext rfl (Prod.mk.inj h).2)
      exact ⟨record :: before, broken, after, rfl,
        List.forall_mem_cons.mpr ⟨exists_values_iff.mp ⟨texts, hvalues⟩, hbefore⟩, hbroken⟩

/-- The rows that are read are those of the records. -/
theorem forall₂_rowOf (hnodup : headers.Nodup) (hid : headers.idxOf? idColumn = some idIndex)
    (h : readRows headers idIndex records = (rows, none)) :
    List.Forall₂ (RowOf headers idColumn) records rows := by
  refine ((readRows_eq_iff ..).mp h).imp fun record row => ?_
  rintro ⟨texts, htexts, rfl⟩
  exact rowOf_of_values hnodup hid htexts

theorem identifiers_of_rowOf (hid : idColumn ∈ headers)
    (h : List.Forall₂ (RowOf headers idColumn) records rows) :
    Identifiers headers idColumn records (rows.map Row.id) := by
  rw [Identifiers, List.map_map, ← List.forall₂_eq_eq_eq, List.forall₂_map_left_iff,
    List.forall₂_map_right_iff]
  exact h.imp fun _ _ hrow => hrow.cell?_id hid

/-- The lines of the rows with an identifier are those of the records with it. -/
theorem lines_of_rowOf (hid : idColumn ∈ headers)
    (h : List.Forall₂ (RowOf headers idColumn) records rows) (id : String) :
    (rows.filter (·.id == id)).map Row.line =
      (records.filter fun record => cell? (headers.idxOf idColumn) record == some id).map
        (·.start.line) := by
  induction h with
  | nil => rfl
  | cons hrow _ ih =>
    have hcell := hrow.cell?_id hid
    rw [List.filter_cons, List.filter_cons, hcell, Option.some_beq_some]
    split
    · rw [List.map_cons, List.map_cons, hrow.line, ih]
    · exact ih

/-- Repeated identifiers are listed in the order of their first rows, with the lines of all rows
that have them. -/
theorem duplicates_eq (rows : List Row) : duplicates rows =
    ((rows.map Row.id).eraseDups.filter fun id => 1 < (rows.map Row.id).count id).map fun id =>
      ⟨id, (rows.filter (·.id == id)).map Row.line⟩ := by
  rw [duplicates, List.filter_map]
  refine congrArg (List.map _) (List.filter_congr fun id _ => ?_)
  rw [Function.comp_apply, List.length_map, length_filter_eq_count]

end Rows

/-! ### Headers -/

theorem mem_of_idxOf? {l : List String} {a : String} {index : Nat} (h : l.idxOf? a = some index) :
    a ∈ l :=
  List.isSome_idxOf?.mp (Option.isSome_of_eq_some h)

/-- The first column that is repeated, by its second occurrence. -/
theorem exists_of_firstRepeated? {l : List String} {a : String} : ∀ {seen : List String},
    firstRepeated? seen l = some a → ∃ before after, l = before ++ a :: after ∧ before.Nodup ∧
      (∀ b ∈ before, b ∉ seen) ∧ (a ∈ before ∨ a ∈ seen) := by
  induction l with
  | nil =>
    intro seen h
    cases h
  | cons b rest ih =>
    intro seen h
    rw [firstRepeated?] at h
    split at h
    · rename_i hseen
      obtain rfl := Option.some.inj h
      exact ⟨[], rest, rfl, .nil, by simp, .inr hseen⟩
    · rename_i hseen
      obtain ⟨before, after, rfl, hnodup, hfresh, ha⟩ := ih h
      have hb : b ∉ before := fun hmem => hfresh b hmem (List.mem_cons_self ..)
      refine ⟨b :: before, after, rfl, List.nodup_cons.mpr ⟨hb, hnodup⟩, ?_, ?_⟩
      · exact List.forall_mem_cons.mpr
          ⟨hseen, fun c hc hmem => hfresh c hc (List.mem_cons_of_mem _ hmem)⟩
      · rw [List.mem_cons] at ha ⊢
        tauto

theorem splitHeader_eq_ok_iff {records rest : List Csv.Record} {headers : List String} :
    splitHeader records = .ok (headers, rest) ↔ IsHeader records headers ∧ rest = records.tail := by
  cases records with
  | nil => simp [splitHeader, IsHeader, eq_comm]
  | cons first records =>
    rw [IsHeader, List.head?_cons, Option.map_some, Option.getD_some, List.tail_cons, splitHeader,
      ← fieldTexts_eq_ok_iff first.start first.fields 0]
    cases fieldTexts first.start 0 first.fields with
    | error e => simp [Except.map]
    | ok texts => simp [Except.map, eq_comm]

theorem refused_of_splitHeader {idColumn : String} {records : List Csv.Record}
    {error : TableError} (h : splitHeader records = .error error) :
    Refused idColumn records (.malformed error) := by
  cases records with
  | nil => cases h
  | cons first records =>
    rw [splitHeader] at h
    cases hfields : fieldTexts first.start 0 first.fields with
    | ok texts =>
      rw [hfields] at h
      cases h
    | error other =>
      rw [hfields] at h
      obtain rfl := Except.error.inj h
      obtain ⟨ahead, offset, hbroken, rfl⟩ := firstBroken_of_fieldTexts hfields
      rw [Nat.zero_add]
      exact .header rfl hbroken

/-! ### Data sets -/

section Load

variable {bytes : Bytes} {delimiter : UInt8} {idColumn : String}

/-- Data are the table of their records. -/
theorem Loads.tableOf {data : DataSet} (h : Loads bytes delimiter idColumn data) :
    TableOf delimiter idColumn (Csv.records delimiter bytes) data := by
  obtain ⟨records, idIndex, hsplit, hid, hread⟩ := h.rows
  obtain ⟨hheader, rfl⟩ := splitHeader_eq_ok_iff.mp hsplit
  exact ⟨h.delimiter_eq, h.idColumn_eq, hheader, forall₂_rowOf h.headers_nodup hid hread⟩

/-- Data are loaded exactly if their records are a table with distinct identifiers. -/
theorem accepted_iff : (∃ data, (load bytes delimiter idColumn).1 = .ok data) ↔
    ∃ headers, Accepted idColumn (Csv.records delimiter bytes) headers := by
  simp only [load_eq_ok_iff]
  constructor
  · rintro ⟨data, h⟩
    obtain ⟨records, idIndex, hsplit, hid, hread⟩ := h.rows
    obtain ⟨hheader, rfl⟩ := splitHeader_eq_ok_iff.mp hsplit
    have hmem : idColumn ∈ data.headers := mem_of_idxOf? hid
    exact ⟨data.headers, hheader, h.headers_nodup, hmem, exists_readRows_iff.mp ⟨_, hread⟩,
      data.rows.map Row.id, identifiers_of_rowOf hmem h.tableOf.rows, h.ids_nodup⟩
  · rintro ⟨headers, hheader, hcolumns, hmem, hregular, ids, hids, hdistinct⟩
    obtain ⟨idIndex, hid⟩ := Option.isSome_iff_exists.mp (List.isSome_idxOf?.mpr hmem)
    obtain ⟨rows, hread⟩ := exists_readRows_iff.mpr hregular
    have hrows := identifiers_of_rowOf hmem (forall₂_rowOf hcolumns hid hread)
    obtain rfl : rows.map Row.id = ids :=
      List.map_injective_iff.mpr (Option.some_injective _) (hrows.symm.trans hids)
    exact ⟨⟨headers, delimiter, idColumn, rows⟩, rfl, rfl, hcolumns, hdistinct, _, _,
      splitHeader_eq_ok_iff.mpr ⟨hheader, rfl⟩, hid, hread⟩

/-- Repeated identifiers are those of regular records. -/
theorem refused_of_duplicates {headers : List String} {records : List Csv.Record} {rows : List Row}
    {idIndex : Nat} (hheader : IsHeader records headers) (hcolumns : headers.Nodup)
    (hid : headers.idxOf? idColumn = some idIndex)
    (hread : readRows headers idIndex records.tail = (rows, none)) (h : duplicates rows ≠ []) :
    Refused idColumn records (.duplicateIds (duplicates rows)) := by
  have hmem : idColumn ∈ headers := mem_of_idxOf? hid
  have hrows := forall₂_rowOf hcolumns hid hread
  have hrepeated := firstOccurrences_filter_eraseDups (rows.map Row.id)
    fun id => 1 < (rows.map Row.id).count id
  simp only [decide_eq_true_eq] at hrepeated
  rw [duplicates_eq] at h ⊢
  simp only [lines_of_rowOf hmem hrows]
  refine .duplicateIds hheader hcolumns hmem (exists_readRows_iff.mp ⟨rows, hread⟩)
    (identifiers_of_rowOf hmem hrows) hrepeated fun hnil => h ?_
  rw [hnil, List.map_nil]

/-- What is reported is the first thing that is wrong with the records. -/
theorem refused_of_load {error : LoadError} (h : (load bytes delimiter idColumn).1 = .error error) :
    Refused idColumn (Csv.records delimiter bytes) error := by
  rw [load] at h
  split at h
  · rename_i hsplit
    obtain rfl := Except.error.inj h
    exact refused_of_splitHeader hsplit
  rename_i headers records hsplit
  obtain ⟨hheader, rfl⟩ := splitHeader_eq_ok_iff.mp hsplit
  split at h
  · rename_i column hcolumn
    obtain rfl := Except.error.inj h
    obtain ⟨before, after, rfl, hdistinct, _, hmem⟩ := exists_of_firstRepeated? hcolumn
    exact .duplicateColumn hheader hdistinct (hmem.resolve_right (by simp))
  rename_i hcolumn
  have hcolumns := ((firstRepeated?_eq_none_iff headers []).mp hcolumn).1
  split at h
  · rename_i hid
    obtain rfl := Except.error.inj h
    exact .noIdColumn hheader hcolumns (List.idxOf?_eq_none_iff.mp hid)
  rename_i idIndex hid
  generalize hread : readRows headers idIndex _ = read at h
  obtain ⟨rows, malformed⟩ := read
  dsimp only at h
  split at h
  · rename_i cause
    obtain rfl := Except.error.inj h
    obtain ⟨before, record, after, hrecords, hbefore, hbroken⟩ := exists_of_readRows_error hread
    exact .record hheader hcolumns (mem_of_idxOf? hid) hrecords hbefore hbroken
  · cases h
  · rename_i hnil
    obtain rfl := Except.error.inj h
    exact refused_of_duplicates hheader hcolumns hid hread hnil

end Load

/-! ### Repeated identifiers -/

/-- So many rows are counted as there are records beyond the first one of each identifier. -/
theorem Refused.count {idColumn : String} {records : List Csv.Record}
    {duplicates : List RepeatedId} (h : Refused idColumn records (.duplicateIds duplicates)) :
    (∀ duplicate ∈ duplicates, 1 < duplicate.lines.length) ∧
      ∃ headers ids, IsHeader records headers ∧ Identifiers headers idColumn records.tail ids ∧
        LoadError.extraRows duplicates + ids.toFinset.card = records.tail.length := by
  cases h with
  | @duplicateIds headers ids repeated hheader _ _ _ hids hrepeated _ =>
    have hlines : ∀ id : String, ((records.tail.filter fun record =>
        cell? (headers.idxOf idColumn) record == some id).map (·.start.line)).length =
          ids.count id := by
      intro id
      rw [List.length_map, length_filter_eq_count (cell? (headers.idxOf idColumn)), hids,
        List.count_map_of_injective _ _ (Option.some_injective _)]
    constructor
    · intro duplicate hduplicate
      obtain ⟨id, hid, rfl⟩ := List.mem_map.mp hduplicate
      exact (hlines id).symm ▸ ((hrepeated.mem_iff id).mp hid).2
    · refine ⟨headers, ids, hheader, hids, ?_⟩
      have hlength : records.tail.length = ids.length := by
        simpa using congrArg List.length hids
      rw [LoadError.extraRows, List.foldl_map, hlength, ← hrepeated.sum_count]
      simp only [hlines]
      rw [List.sum_eq_foldl, List.foldl_map]

/-- **The table of the records.** Data are loaded exactly if header and records are text, all
records have a field for each column, the columns are distinct and one of them holds identifiers,
which are distinct when they are trimmed. Then the rows are those of the records, in their order.
Else the first thing that is wrong is reported; repeated identifiers are counted as the records
beyond the first one of each identifier. -/
theorem load_reads_table (bytes : Bytes) (delimiter : UInt8) (idColumn : String) :
    let records := Csv.records delimiter bytes
    let loaded := (load bytes delimiter idColumn).1
    ((∃ data, loaded = .ok data) ↔ ∃ headers, Accepted idColumn records headers) ∧
    (∀ data, loaded = .ok data → TableOf delimiter idColumn records data) ∧
    (∀ error, loaded = .error error → Refused idColumn records error) ∧
    ∀ duplicates, loaded = .error (.duplicateIds duplicates) →
      (∀ duplicate ∈ duplicates, 1 < duplicate.lines.length) ∧
      ∃ headers ids extra, IsHeader records headers ∧
        Identifiers headers idColumn records.tail ids ∧
        extra + ids.toFinset.card = records.tail.length ∧
        let listed := String.intercalate ", " (duplicates.map RepeatedId.message)
        (LoadError.duplicateIds duplicates).message =
          s!"The article data contain {extra} entries with non-unique ID values: {listed}" := by
  intro records loaded
  refine ⟨accepted_iff, fun data h => ((load_eq_ok_iff ..).mp h).tableOf,
    fun error h => refused_of_load h, fun duplicates h => ?_⟩
  obtain ⟨hlines, headers, ids, hheader, hids, hcount⟩ := (refused_of_load h).count
  exact ⟨hlines, headers, ids, LoadError.extraRows duplicates, hheader, hids, hcount, rfl⟩

/-- A record with too few fields is reported, although an identifier is repeated before it. -/
example : (load (Text.Utf8.encode "id;a\n1;x\n1;y\n2\n") 0x3B "id").1 =
    .error (.malformed (.unequalLengths ⟨3, 4, 13⟩ 2 1)) := by
  decide +kernel

end PageMerge.Data
