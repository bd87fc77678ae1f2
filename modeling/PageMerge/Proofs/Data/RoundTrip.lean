import PageMerge.Proofs.Data.Ledger

/-!
# Data that are written and loaded again

Data that were loaded, with any delimiter but a quote, are loaded again as they were after they or
some of their rows are written with this delimiter. Only a first column that starts with a byte
order mark is excluded; no other text can seem to start with one, also if the delimiter is a byte of
a mark itself.

## Main results

* `not_mark_prefix_writeAll`: texts that are written do not seem to start with a mark
* `load_ledgerBytes`: rows that are written are loaded as they were
-/

namespace PageMerge.Data

open PageMerge.Csv (isBreak joinFields mark needsQuotes quote writeAll writeField writeRecord)
open PageMerge.Text (Bytes)
open PageMerge.Text.Utf8 (encode)

/-! ### First bytes -/

section FirstBytes

variable {delimiter : UInt8}

/-- What is written for a text stands between quotes, is nothing, or starts with a character. -/
theorem writeField_encode_cases (delimiter : UInt8) (text : String) :
    (∃ rest, writeField delimiter (encode text) = quote :: rest) ∨
    text.toList = [] ∧ writeField delimiter (encode text) = [] ∨
    ∃ c rest, text.toList.head? = some c ∧
      writeField delimiter (encode text) = String.utf8EncodeChar c ++ rest := by
  rw [writeField]
  split
  · exact .inl ⟨_, rfl⟩
  · rw [encode]
    cases text.toList with
    | nil => exact .inr (.inl ⟨rfl, rfl⟩)
    | cons c rest => exact .inr (.inr ⟨c, rest.flatMap String.utf8EncodeChar, rfl, rfl⟩)

/-- Behind an empty text, or with the text itself, a mark can start. -/
theorem mark_prefix_writeField {text : String} {after : Bytes}
    (h : mark <+: writeField delimiter (encode text) ++ after) :
    text.toList.head? = some '\ufeff' ∨ text.toList = [] ∧ mark <+: after := by
  rcases writeField_encode_cases delimiter text with ⟨rest, heq⟩ | ⟨hnil, heq⟩ | ⟨c, rest, hc, heq⟩
  · rw [heq] at h
    simp [mark, quote] at h
  · rw [heq] at h
    exact .inr ⟨hnil, h⟩
  · rw [heq, List.append_assoc] at h
    rw [hc, eq_of_mark_prefix h]
    exact .inl rfl

/-- The second byte of a mark starts no character, so it is never the first one of a line. -/
theorem joinFields_ne_tail (hdelimiter : delimiter ≠ 0xBB) {texts : List String} (hne : texts ≠ [])
    (after rest : Bytes) :
    joinFields delimiter (texts.map encode) ++ 0x0A :: after ≠ 0xBB :: rest := by
  obtain ⟨text, more, rfl⟩ := List.exists_cons_of_ne_nil hne
  -- Behind an empty text comes a delimiter or the end of the line.
  obtain ⟨b, behind, hb, heq⟩ : ∃ b behind, b ≠ 0xBB ∧
      joinFields delimiter ((text :: more).map encode) ++ 0x0A :: after =
        writeField delimiter (encode text) ++ b :: behind := by
    cases more with
    | nil =>
      rw [List.map_singleton, Csv.joinFields_singleton]
      exact ⟨0x0A, after, by decide, rfl⟩
    | cons next more =>
      rw [List.map_cons, List.map_cons, Csv.joinFields_cons_cons, List.append_assoc]
      exact ⟨delimiter, _, hdelimiter, rfl⟩
  rw [heq]
  intro h
  rcases writeField_encode_cases delimiter text with ⟨_, hquoted⟩ | ⟨_, hnil⟩ | ⟨c, _, _, hchar⟩
  · rw [hquoted, List.cons_append] at h
    exact absurd (List.cons.inj h).1 (by decide)
  · rw [hnil, List.nil_append] at h
    exact hb (List.cons.inj h).1
  · rw [hchar, List.append_assoc] at h
    have hread := Text.Utf8.readChar_of_encode h.symm
    have hnone : Text.Utf8.readChar 0xBB rest = (none, rest) := rfl
    rw [hnone] at hread
    cases hread

/-- Texts that are written do not seem to start with a mark if the first of them does not. -/
theorem not_mark_prefix_writeAll {texts : List String} (hne : texts ≠ [])
    (hfirst : ∀ text ∈ texts.head?, text.toList.head? ≠ some '\ufeff')
    (records : List (List Bytes)) :
    ¬ mark <+: writeAll delimiter (texts.map encode :: records) := by
  obtain ⟨text, more, rfl⟩ := List.exists_cons_of_ne_nil hne
  rw [writeAll, List.flatMap_cons, writeRecord]
  intro h
  split at h
  -- An empty line is written as a pair of quotes.
  · simp [mark, quote] at h
  rw [List.append_assoc, List.singleton_append] at h
  cases more with
  | nil =>
    rw [List.map_singleton, Csv.joinFields_singleton] at h
    rcases mark_prefix_writeField h with hmark | ⟨_, hmark⟩
    · exact hfirst text rfl hmark
    · simp [mark] at hmark
  | cons next more =>
    rw [List.map_cons, List.map_cons, Csv.joinFields_cons_cons, List.append_assoc] at h
    rcases mark_prefix_writeField h with hmark | ⟨_, behind, hbehind⟩
    · exact hfirst text rfl hmark
    · -- The delimiter is the first byte of a mark, but its second one does not come next.
      obtain ⟨hdelimiter, hline⟩ := List.cons.inj hbehind
      refine joinFields_ne_tail ?_ (List.cons_ne_nil next more) _ _ hline.symm
      rw [← hdelimiter]
      decide

end FirstBytes

/-! ### The round trip -/

/-- Rows of data that were loaded, written under their header with the same delimiter, are loaded as
they were: the header, the identifiers and the values are the same, in the same order. -/
theorem load_ledgerBytes {bytes : Bytes} {delimiter : UInt8} {idColumn : String} {data : DataSet}
    {rows : List Row} (hquote : delimiter ≠ quote) (hbreak : isBreak delimiter = false)
    (hload : (load bytes delimiter idColumn).1 = .ok data)
    (hunmarked : ∀ header ∈ data.headers.head?, header.toList.head? ≠ some '\ufeff')
    (hrows : rows.Sublist data.rows) :
    ∃ reloaded, (load (ledgerBytes data rows) delimiter idColumn).1 = .ok reloaded ∧
      SameContent data.headers rows reloaded := by
  have hloads := (load_eq_ok_iff ..).mp hload
  obtain rfl := hloads.delimiter_eq
  have hmark : ¬ mark <+: ledgerBytes data rows := by
    rw [ledgerBytes_eq]
    exact not_mark_prefix_writeAll hloads.headers_ne_nil hunmarked _
  obtain ⟨reloaded, hreloaded, hsame⟩ :=
    loads_of_not_mark hloads hbreak hrows (fun _ _ hd => absurd hd hquote) hmark
  exact ⟨reloaded, (load_eq_ok_iff ..).mpr hreloaded, hsame⟩

/-- The delimiter is the last byte of the character in the second column, and the value below it
has blanks around it, a line break and a quote in it. -/
theorem load_ledgerBytes_split_character :
    let table : List (List String) := [["id", "na»me"], ["1", " a\r\n\"b "], ["2", ""]]
    let bytes := writeAll 0xBB (table.map (·.map encode))
    let data : DataSet := ⟨["id", "na»me"], 0xBB, "id",
      [⟨2, "1", [("id", "1"), ("na»me", "a\r\n\"b")]⟩, ⟨4, "2", [("id", "2"), ("na»me", "")]⟩]⟩
    (0xBB : UInt8) ≠ quote ∧ isBreak 0xBB = false ∧ (load bytes 0xBB "id").1 = .ok data ∧
      (∀ header ∈ data.headers.head?, header.toList.head? ≠ some '\ufeff') ∧
      data.rows.tail.Sublist data.rows ∧
      ∃ reloaded, (load (ledgerBytes data data.rows.tail) 0xBB "id").1 = .ok reloaded ∧
        SameContent data.headers data.rows.tail reloaded := by
  intro table bytes data
  have hquote : (0xBB : UInt8) ≠ quote := by decide
  have hbreak : isBreak 0xBB = false := by decide
  have hload : (load bytes 0xBB "id").1 = .ok data := by decide +kernel
  have hunmarked : ∀ header ∈ data.headers.head?, header.toList.head? ≠ some '\ufeff' := by decide
  have hrows : data.rows.tail.Sublist data.rows := List.tail_sublist data.rows
  exact ⟨hquote, hbreak, hload, hunmarked, hrows,
    load_ledgerBytes hquote hbreak hload hunmarked hrows⟩

end PageMerge.Data
