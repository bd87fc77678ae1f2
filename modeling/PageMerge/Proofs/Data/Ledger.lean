import PageMerge.Data.Ledger
import PageMerge.Proofs.Csv.Agreement
import PageMerge.Proofs.Data.Load
import PageMerge.Proofs.Text.Trim

/-!
# Loading a failure ledger

A ledger is loaded with the header and the rows that were written into it, or it is not: this is
decided by its bytes alone. It is not if the first column starts with a byte order mark that stands
at the very start of the ledger, or if the delimiter is a quote and some field that another one
follows is empty or stands between quotes.

## Main definitions

* `Reads`: a field is read as a text
* `Row.Fits`: a row that was loaded under a header
* `Reloadable`: the conditions under which a ledger is loaded as it was written

## Main results

* `loads_of_reloadable`, `reloadable_of_loads`: the two directions
* `ledger_loads_iff`: when a ledger is loaded as it was written
-/

namespace PageMerge.Data

open PageMerge.Csv (Agrees Separable fieldsOf isBreak mark needsQuotes quote writeAll)
open PageMerge.Text (Bytes isBlank trim trimWith trim_trim)
open PageMerge.Text.Utf8 (decode decode_encode encode encode_of_decode)

/-! ### Fields -/

/-- A field is read as a text. -/
def Reads (field : Bytes) (text : String) : Prop :=
  ∃ whole, decode (trimWith isBlankByte field) = .ok whole ∧ text = trim whole

/-- The texts of fields. -/
theorem fieldTexts_eq_ok_iff (start : Csv.Position) (fields : List Bytes) : ∀ index texts,
    fieldTexts start index fields = .ok texts ↔
      List.Forall₂ (fun field text => decode field = .ok text) fields texts := by
  induction fields with
  | nil =>
    intro index texts
    simp [fieldTexts, eq_comm]
  | cons field rest ih =>
    intro index texts
    rw [fieldTexts, List.forall₂_cons_left_iff]
    cases hfield : decode field with
    | error offset => simp
    | ok text =>
      cases hrest : fieldTexts start (index + 1) rest with
      | error e =>
        constructor
        · intro h
          cases h
        · rintro ⟨_, others, _, hothers, rfl⟩
          rw [(ih (index + 1) others).mpr hothers] at hrest
          cases hrest
      | ok others =>
        constructor
        · intro h
          obtain rfl := Except.ok.inj h
          exact ⟨text, others, rfl, (ih _ _).mp hrest, rfl⟩
        · rintro ⟨_, others', htext, hothers, rfl⟩
          obtain rfl := Except.ok.inj htext
          rw [(ih (index + 1) others').mpr hothers] at hrest
          obtain rfl := Except.ok.inj hrest
          rfl

/-- The values of a record are its fields, read as texts. -/
theorem values_eq_ok_iff (width : Nat) (record : Csv.Record) (texts : List String) :
    values width record = .ok texts ↔
      record.fields.length = width ∧ List.Forall₂ Reads record.fields texts := by
  have hreads : List.Forall₂ Reads record.fields texts ↔
      ∃ wholes, List.Forall₂ (fun field text => decode field = .ok text)
        (record.fields.map (trimWith isBlankByte)) wholes ∧ texts = wholes.map trim := by
    generalize record.fields = fields
    induction fields generalizing texts with
    | nil => simp [eq_comm]
    | cons field rest ih =>
      rw [List.forall₂_cons_left_iff]
      constructor
      · rintro ⟨text, others, ⟨whole, hwhole, rfl⟩, hothers, rfl⟩
        obtain ⟨wholes, hwholes, rfl⟩ := (ih others).mp hothers
        exact ⟨whole :: wholes, .cons hwhole hwholes, rfl⟩
      · rintro ⟨wholes, hwholes, rfl⟩
        rw [List.map_cons] at hwholes
        obtain ⟨whole, others, hwhole, hothers, rfl⟩ := List.forall₂_cons_left_iff.mp hwholes
        exact ⟨trim whole, others.map trim, ⟨whole, hwhole, rfl⟩,
          (ih _).mpr ⟨others, hothers, rfl⟩, rfl⟩
  rw [values, hreads]
  split
  · rename_i hwidth
    simp [hwidth]
  · rename_i hwidth
    rw [not_not] at hwidth
    constructor
    · intro h
      cases hwholes : fieldTexts record.start 0 (record.fields.map (trimWith isBlankByte)) with
      | error e =>
        rw [hwholes] at h
        cases h
      | ok wholes =>
        rw [hwholes] at h
        exact ⟨hwidth, wholes, (fieldTexts_eq_ok_iff ..).mp hwholes, (Except.ok.inj h).symm⟩
    · rintro ⟨_, wholes, hwholes, rfl⟩
      rw [(fieldTexts_eq_ok_iff ..).mpr hwholes]
      rfl

/-- What is read is trimmed. -/
theorem Reads.trim_eq {field : Bytes} {text : String} (h : Reads field text) :
    trim text = text := by
  obtain ⟨whole, _, rfl⟩ := h
  exact trim_trim whole

/-- The bytes of a trimmed text are read as the text. -/
theorem reads_encode {text : String} (h : trim text = text) : Reads (encode text) text := by
  refine ⟨text, ?_, h.symm⟩
  rw [← h, Text.trimWith_encode_trim]
  exact decode_encode _

/-- A field agrees with the text that it is read as: what trimming takes away are no quotes. -/
theorem Reads.agrees {field : Bytes} {text : String} (delimiter : UInt8) (h : Reads field text) :
    Agrees delimiter field (encode text) := by
  obtain ⟨whole, hwhole, rfl⟩ := h
  -- The field is the text between what is trimmed as bytes and what is trimmed as characters.
  obtain ⟨first, last, hfield, hfirst, hlast⟩ := Text.exists_trimWith isBlankByte field
  obtain ⟨before, after, hbytes, hbefore, hafter⟩ := Text.exists_encode_trim whole
  have hblank : ∀ bs : Bytes, (∀ b ∈ bs, isBlankByte b = true) → bs.count quote = 0 := by
    intro bs hbs
    rw [List.count_eq_zero]
    exact fun hmem => absurd (hbs quote hmem) (by decide)
  have hchars : ∀ chars : List Char, (∀ c ∈ chars, isBlank c = true) →
      (chars.flatMap String.utf8EncodeChar).count quote = 0 := by
    intro chars hall
    rw [List.count_eq_zero, List.mem_flatMap]
    rintro ⟨c, hc, hmem⟩
    have hquote := (Text.Utf8.eq_of_ascii_mem (by decide) hmem).1
    rw [hquote] at hc
    exact absurd (hall _ hc) (by decide)
  rw [← encode_of_decode hwhole, hbytes] at hfield
  rw [hfield]
  constructor
  · simp only [List.count_append, hblank first hfirst, hblank last hlast, hchars before hbefore,
      hchars after hafter, Nat.zero_add, Nat.add_zero]
  · simp only [Csv.plainCount_append]
    omega

/-! ### Rows -/

/-- What a row says, without the line that it stands on. -/
def Row.content (row : Row) : String × List (String × String) := (row.id, row.fields)

/-- A row that was loaded under a header, with its trimmed values. -/
structure Row.Fits (headers : List String) (idIndex : Nat) (row : Row) (texts : List String) :
    Prop where
  length : texts.length = headers.length
  fields : row.fields = headers.zip texts
  id : row.id = (texts[idIndex]?).getD ""
  trimmed : ∀ text ∈ texts, trim text = text

/-- Every row of a data set fits its header. -/
theorem Loads.fits {bytes : Bytes} {delimiter : UInt8} {idColumn : String} {data : DataSet}
    (h : Loads bytes delimiter idColumn data) : ∃ idIndex,
      data.headers.idxOf? idColumn = some idIndex ∧
      ∀ row ∈ data.rows, ∃ texts, row.Fits data.headers idIndex texts := by
  obtain ⟨records, idIndex, _, hid, hrows⟩ := h.rows
  rw [readRows_eq_iff] at hrows
  refine ⟨idIndex, hid, Csv.forall_mem_of_forall₂ (P := fun _ => True) ?_ hrows
    fun _ _ => trivial⟩
  rintro record row ⟨texts, hvalues, rfl⟩ _
  obtain ⟨hwidth, hreads⟩ := (values_eq_ok_iff ..).mp hvalues
  refine ⟨texts, hreads.length_eq.symm.trans hwidth, rfl, rfl, ?_⟩
  exact Csv.forall_mem_of_forall₂ (P := fun _ => True) (fun _ _ hread _ => hread.trim_eq) hreads
    fun _ _ => trivial

/-- The value in a column is the one at the place of its name. -/
theorem lookup_zip : ∀ {headers texts : List String}, headers.Nodup →
    texts.length = headers.length → ∀ {column : Nat} {header : String},
      headers[column]? = some header → (headers.zip texts).lookup header = texts[column]?
  | [], [], _, _, _, _, h => by simp at h
  | other :: headers, text :: texts, hnodup, hlength, column, header, h => by
    rw [List.nodup_cons] at hnodup
    rw [List.zip_cons_cons]
    cases column with
    | zero =>
      obtain rfl : other = header := by simpa using h
      rw [List.lookup_cons_self, List.getElem?_cons_zero]
    | succ column =>
      rw [List.getElem?_cons_succ] at h
      have hne : (header == other) = false := by
        rw [beq_eq_false_iff_ne]
        rintro rfl
        exact hnodup.1 (List.mem_of_getElem? h)
      rw [List.lookup_cons, hne, List.getElem?_cons_succ]
      exact lookup_zip hnodup.2 (Nat.succ.inj hlength) h

/-- The values of columns, looked up one by one. -/
theorem map_lookup_zip {headers texts : List String} (hnodup : headers.Nodup)
    (hlength : texts.length = headers.length) :
    headers.map (fun header => ((headers.zip texts).lookup header).getD "") = texts := by
  refine List.ext_getElem (by rw [List.length_map, hlength]) fun column hcolumn htext => ?_
  rw [List.length_map] at hcolumn
  rw [List.getElem_map, lookup_zip hnodup hlength (List.getElem?_eq_getElem hcolumn),
    List.getElem?_eq_getElem htext, Option.getD_some]

/-- The bytes that are written for a row. -/
theorem Row.Fits.toRecord_eq {headers : List String} {idIndex : Nat} {row : Row}
    {texts : List String} (h : row.Fits headers idIndex texts) (hnodup : headers.Nodup) :
    row.toRecord headers = texts.map encode := by
  have hvalues := congrArg (List.map encode) (map_lookup_zip hnodup h.length)
  rw [List.map_map] at hvalues
  rw [Row.toRecord, ← hvalues]
  apply List.map_congr_left
  intro header _
  rw [Row.get?, h.fields]
  rfl

/-- The values of a row are those under the columns. -/
theorem Row.Fits.texts_eq {headers : List String} {idIndex : Nat} {row : Row}
    {texts others : List String} (h : row.Fits headers idIndex texts)
    (hlength : others.length = headers.length) (hfields : row.fields = headers.zip others) :
    texts = others := by
  rw [← List.map_snd_zip (Nat.le_of_eq h.length), ← h.fields, hfields,
    List.map_snd_zip (Nat.le_of_eq hlength)]

/-! ### Ledgers -/

/-- The fields that are written into a ledger. -/
def ledgerRecords (data : DataSet) (rows : List Row) : List (List Bytes) :=
  data.headers.map encode :: rows.map (Row.toRecord data.headers)

theorem ledgerBytes_eq (data : DataSet) (rows : List Row) :
    ledgerBytes data rows = writeAll data.delimiter (ledgerRecords data rows) := by
  rw [ledgerBytes, writeAll, ledgerRecords, List.flatMap_cons, List.flatMap_map]

/-- A ledger of rows of a data set can be loaded as it was written. -/
structure Reloadable (data : DataSet) (rows : List Row) : Prop where
  /-- A first column with a byte order mark stands between quotes. -/
  unmarked : ∀ header ∈ data.headers.head?, header.toList.head? = some '\ufeff' →
    needsQuotes data.delimiter (encode header) = true
  /-- If the delimiter is a quote, every field that another one follows is written without quotes,
  and is not empty. -/
  separable : ∀ record ∈ ledgerRecords data rows, Separable data.delimiter record

/-- A data set has the given header, and rows that say the same as the given ones. -/
def SameContent (headers : List String) (rows : List Row) (reloaded : DataSet) : Prop :=
  reloaded.headers = headers ∧ reloaded.rows.map Row.content = rows.map Row.content

/-- No other character starts with the bytes of the mark. -/
theorem eq_of_mark_prefix {c : Char} {rest : Bytes}
    (h : mark <+: String.utf8EncodeChar c ++ rest) : c = '\ufeff' := by
  have hmark : String.utf8EncodeChar '\ufeff' = mark := by decide
  obtain ⟨more, hmore⟩ := h
  have hread : Text.Utf8.readChar 0xEF (0xBB :: 0xBF :: more) = (some '\ufeff', more) :=
    Text.Utf8.readChar_of_encode (by rw [hmark]; rfl)
  have hread' : Text.Utf8.readChar 0xEF (0xBB :: 0xBF :: more) = (some c, rest) :=
    Text.Utf8.readChar_of_encode hmore
  rw [hread] at hread'
  exact (Option.some.inj (congrArg Prod.fst hread')).symm

/-- The byte order mark is a character. -/
theorem mark_prefix_encode_iff (text : String) :
    mark <+: encode text ↔ text.toList.head? = some '\ufeff' := by
  have hmark : String.utf8EncodeChar '\ufeff' = mark := by decide
  rw [encode]
  generalize text.toList = chars
  cases chars with
  | nil => simp [mark]
  | cons c rest =>
    rw [List.flatMap_cons, List.head?_cons, Option.some.injEq]
    constructor
    · exact eq_of_mark_prefix
    · rintro rfl
      rw [hmark]
      exact List.prefix_append ..

/-! ### Ledgers that are loaded -/

/-- The condition on the first column is one on the first bytes. -/
theorem not_mark_prefix_iff {data : DataSet} (hascii : data.delimiter.toNat < 0x80)
    (rows : List Row) (hheaders : data.headers ≠ []) :
    ¬ mark <+: ledgerBytes data rows ↔
      ∀ header ∈ data.headers.head?, header.toList.head? = some '\ufeff' →
        needsQuotes data.delimiter (encode header) = true := by
  obtain ⟨header, more, heq⟩ := List.exists_cons_of_ne_nil hheaders
  rw [ledgerBytes_eq, ledgerRecords, heq, List.map_cons, Csv.mark_prefix_writeAll_iff hascii,
    mark_prefix_encode_iff]
  simp only [List.head?_cons, Option.mem_some, forall_eq', not_and]
  cases needsQuotes data.delimiter (encode header) <;> simp

/-- Fields of the bytes of trimmed texts are read as these. -/
theorem forall₂_reads_encode {texts : List String} (h : ∀ text ∈ texts, trim text = text) :
    List.Forall₂ Reads (texts.map encode) texts := by
  rw [List.forall₂_map_left_iff, List.forall₂_same]
  exact fun text htext => reads_encode (h text htext)

/-- Records that hold the fields of rows are loaded as these rows. -/
theorem exists_rows {headers : List String} {idIndex : Nat} (hnodup : headers.Nodup)
    (records : List Csv.Record) : ∀ rows : List Row,
      (∀ row ∈ rows, ∃ texts, row.Fits headers idIndex texts) →
      records.map Csv.Record.fields = rows.map (Row.toRecord headers) →
        ∃ loaded, readRows headers idIndex records = (loaded, none) ∧
          loaded.map Row.content = rows.map Row.content := by
  induction records with
  | nil =>
    intro rows _ heq
    rw [List.map_nil, eq_comm, List.map_eq_nil_iff] at heq
    subst heq
    exact ⟨[], rfl, rfl⟩
  | cons record records ih =>
    intro rows hfits heq
    cases rows with
    | nil => cases heq
    | cons row rows =>
      obtain ⟨hrecord, hrest⟩ := List.cons.inj heq
      obtain ⟨texts, htexts⟩ := hfits row (List.mem_cons_self ..)
      obtain ⟨loaded, hloaded, hcontent⟩ :=
        ih rows (fun other hother => hfits other (List.mem_cons_of_mem _ hother)) hrest
      rw [htexts.toRecord_eq hnodup] at hrecord
      have hvalues : values headers.length record = .ok texts := by
        rw [values_eq_ok_iff, hrecord, List.length_map]
        exact ⟨htexts.length, forall₂_reads_encode htexts.trimmed⟩
      refine ⟨rowOf headers idIndex record.start.line texts :: loaded, ?_, ?_⟩
      · rw [readRows, hvalues]
        dsimp only
        rw [hloaded]
      · rw [List.map_cons, List.map_cons, hcontent, Row.content, Row.content, rowOf, htexts.id,
          htexts.fields]

/-- The fields of records that are loaded as rows agree with those of the rows. -/
theorem agrees_of_rows {headers : List String} {idIndex : Nat} {delimiter : UInt8}
    (hnodup : headers.Nodup) {records : List Csv.Record} {loaded : List Row}
    (hloaded : List.Forall₂ (fun record row => ∃ texts,
      values headers.length record = .ok texts ∧
        row = rowOf headers idIndex record.start.line texts) records loaded) :
    ∀ {rows : List Row}, loaded.map Row.content = rows.map Row.content →
      (∀ row ∈ rows, ∃ index texts, row.Fits headers index texts) →
        List.Forall₂ (List.Forall₂ (Agrees delimiter)) (records.map Csv.Record.fields)
          (rows.map (Row.toRecord headers)) := by
  induction hloaded with
  | nil =>
    intro rows hcontent _
    rw [List.map_nil, eq_comm, List.map_eq_nil_iff] at hcontent
    subst hcontent
    exact .nil
  | cons hrecord _ ih =>
    intro rows hcontent hfits
    cases rows with
    | nil => cases hcontent
    | cons row rows =>
      obtain ⟨hrow, hrest⟩ := List.cons.inj hcontent
      obtain ⟨texts, hvalues, rfl⟩ := hrecord
      obtain ⟨hwidth, hreads⟩ := (values_eq_ok_iff ..).mp hvalues
      obtain ⟨index, others, hothers⟩ := hfits row (List.mem_cons_self ..)
      refine .cons ?_ (ih hrest fun other hother => hfits other (List.mem_cons_of_mem _ hother))
      have hfields : row.fields = headers.zip texts := (congrArg Prod.snd hrow).symm
      have hlength := hreads.length_eq.symm.trans hwidth
      rw [hothers.toRecord_eq hnodup, hothers.texts_eq hlength hfields, List.forall₂_map_right_iff]
      exact hreads.imp fun _ _ hread => hread.agrees delimiter

/-- There is a column. -/
theorem Loads.headers_ne_nil {bytes : Bytes} {delimiter : UInt8} {idColumn : String}
    {data : DataSet} (h : Loads bytes delimiter idColumn data) : data.headers ≠ [] := by
  obtain ⟨_, hid, _⟩ := h.fits
  intro hnil
  rw [hnil] at hid
  cases hid

/-- A record is written with a field for each column. -/
theorem ledgerRecords_ne_nil {data : DataSet} (hheaders : data.headers ≠ []) (rows : List Row) :
    ∀ record ∈ ledgerRecords data rows, record ≠ [] := by
  intro record hrecord
  rcases List.mem_cons.mp hrecord with rfl | hrecord
  · simpa using hheaders
  · obtain ⟨row, _, rfl⟩ := List.mem_map.mp hrecord
    simpa [Row.toRecord] using hheaders

section Ledgers

variable {bytes : Bytes} {idColumn : String} {data : DataSet} {rows : List Row}

/-- A ledger whose fields can be told apart is loaded as it was written, unless it seems to start
with a mark. -/
theorem loads_of_not_mark (h : Loads bytes data.delimiter idColumn data)
    (hbreak : isBreak data.delimiter = false) (hrows : rows.Sublist data.rows)
    (hseparable : ∀ record ∈ ledgerRecords data rows, Separable data.delimiter record)
    (hmark : ¬ mark <+: ledgerBytes data rows) :
    ∃ reloaded, Loads (ledgerBytes data rows) data.delimiter idColumn reloaded ∧
      SameContent data.headers rows reloaded := by
  obtain ⟨idIndex, hid, hfits⟩ := h.fits
  have hrecords : ∀ record ∈ ledgerRecords data rows,
      record ≠ [] ∧ Separable data.delimiter record := fun record hrecord =>
    ⟨ledgerRecords_ne_nil h.headers_ne_nil rows record hrecord, hseparable record hrecord⟩
  -- The reader finds the fields that were written.
  rw [ledgerBytes_eq] at hmark
  have hfields := Csv.fieldsOf_writeAll hbreak hrecords hmark
  rw [← ledgerBytes_eq, fieldsOf, ledgerRecords] at hfields
  cases hread : Csv.records data.delimiter (ledgerBytes data rows) with
  | nil =>
    rw [hread] at hfields
    cases hfields
  | cons header records =>
    rw [hread] at hfields
    obtain ⟨hheader, hrest⟩ := List.cons.inj hfields
    -- Their texts are those of the rows, whose identifiers are distinct as they were in the data.
    obtain ⟨loaded, hloaded, hcontent⟩ := exists_rows h.headers_nodup records rows
      (fun row hrow => hfits row (hrows.subset hrow)) hrest
    have hids : loaded.map Row.id = rows.map Row.id := by
      have hfirst := congrArg (List.map Prod.fst) hcontent
      rwa [List.map_map, List.map_map] at hfirst
    refine ⟨⟨data.headers, data.delimiter, idColumn, loaded⟩,
      ⟨rfl, rfl, h.headers_nodup, ?_, records, idIndex, ?_, hid, hloaded⟩,
      rfl, hcontent⟩
    · change (loaded.map Row.id).Nodup
      rw [hids]
      exact h.ids_nodup.sublist (hrows.map Row.id)
    · have htexts : fieldTexts header.start 0 header.fields = .ok data.headers := by
        rw [fieldTexts_eq_ok_iff, hheader, List.forall₂_map_left_iff, List.forall₂_same]
        exact fun text _ => decode_encode text
      rw [hread, splitHeader, htexts]
      rfl

/-- A ledger that can be loaded is loaded as it was written. -/
theorem loads_of_reloadable (h : Loads bytes data.delimiter idColumn data)
    (hascii : data.delimiter.toNat < 0x80) (hbreak : isBreak data.delimiter = false)
    (hrows : rows.Sublist data.rows) (hreloadable : Reloadable data rows) :
    ∃ reloaded, Loads (ledgerBytes data rows) data.delimiter idColumn reloaded ∧
      SameContent data.headers rows reloaded :=
  loads_of_not_mark h hbreak hrows hreloadable.separable
    ((not_mark_prefix_iff hascii rows h.headers_ne_nil).mpr hreloadable.unmarked)

/-- The fields of a ledger that is loaded as it was written agree with those that were written. -/
theorem agrees_of_loads (h : Loads bytes data.delimiter idColumn data)
    (hrows : rows.Sublist data.rows) {reloaded : DataSet}
    (hloads : Loads (ledgerBytes data rows) data.delimiter idColumn reloaded)
    (hsame : SameContent data.headers rows reloaded) :
    List.Forall₂ (List.Forall₂ (Agrees data.delimiter))
      (fieldsOf data.delimiter (ledgerBytes data rows)) (ledgerRecords data rows) := by
  obtain ⟨_, _, hfits⟩ := h.fits
  obtain ⟨records, idIndex, hsplit, hid, hread⟩ := hloads.rows
  rw [hsame.1] at hsplit hid hread
  rw [readRows_eq_iff] at hread
  rw [fieldsOf, ledgerRecords]
  cases hfound : Csv.records data.delimiter (ledgerBytes data rows) with
  | nil =>
    rw [hfound] at hsplit
    have hnil : [] = data.headers := congrArg Prod.fst (Except.ok.inj hsplit)
    rw [← hnil] at hid
    cases hid
  | cons header found =>
    rw [hfound, splitHeader] at hsplit
    cases htexts : fieldTexts header.start 0 header.fields with
    | error e =>
      rw [htexts] at hsplit
      cases hsplit
    | ok texts =>
      rw [htexts] at hsplit
      obtain ⟨rfl, rfl⟩ := Prod.mk.inj (Except.ok.inj hsplit)
      refine .cons ?_ (agrees_of_rows h.headers_nodup hread hsame.2
        fun row hrow => ⟨_, hfits row (hrows.subset hrow)⟩)
      rw [List.forall₂_map_right_iff]
      refine ((fieldTexts_eq_ok_iff ..).mp htexts).imp fun field text htext => ?_
      rw [encode_of_decode htext]
      exact ⟨rfl, Nat.le_refl _⟩

/-- A ledger that is loaded as it was written could be loaded. -/
theorem reloadable_of_loads (h : Loads bytes data.delimiter idColumn data)
    (hascii : data.delimiter.toNat < 0x80) (hrows : rows.Sublist data.rows) {reloaded : DataSet}
    (hloads : Loads (ledgerBytes data rows) data.delimiter idColumn reloaded)
    (hsame : SameContent data.headers rows reloaded) : Reloadable data rows := by
  have hheaders := h.headers_ne_nil
  have hagrees := agrees_of_loads h hrows hloads hsame
  rw [ledgerBytes_eq] at hagrees
  constructor
  · rw [← not_mark_prefix_iff hascii rows hheaders, ledgerBytes_eq]
    exact Csv.not_mark_of_agrees hascii hagrees
  · exact Csv.separable_of_agrees hascii (ledgerRecords_ne_nil hheaders rows) hagrees

/-- When a ledger is loaded as it was written. -/
theorem ledger_loads_iff (h : Loads bytes data.delimiter idColumn data)
    (hascii : data.delimiter.toNat < 0x80) (hbreak : isBreak data.delimiter = false)
    (hrows : rows.Sublist data.rows) :
    (∃ reloaded, Loads (ledgerBytes data rows) data.delimiter idColumn reloaded ∧
      SameContent data.headers rows reloaded) ↔ Reloadable data rows :=
  ⟨fun ⟨_, hloads, hsame⟩ => reloadable_of_loads h hascii hrows hloads hsame,
    loads_of_reloadable h hascii hbreak hrows⟩

end Ledgers

end PageMerge.Data
