import PageMerge.Proofs.Csv.RoundTrip

/-!
# Records that are not read back

What stands in the way of reading records back does so in every case. A byte order mark that is
skipped is missing from the fields. If the delimiter is a quote, an empty field that another one
follows is read with bytes that do not belong to it, and a field between quotes is read with a quote
more than it has. So it is enough to compare the quotes and the plain bytes of the fields that are
read with those that were written, which trimming and decoding of the fields cannot hide.

## Main definitions

* `Agrees`: a field that was read has the quotes of one that was written, and its plain bytes

## Main results

* `separable_of_agrees`: the fields of records that are read back can be told apart
* `not_mark_of_agrees`: records that are read back do not start with a byte order mark
-/

namespace PageMerge.Csv

open PageMerge.Text (Bytes)

/-- A field that was read has as many quotes as the one that was written, and no fewer plain
bytes. -/
structure Agrees (delimiter : UInt8) (read written : Bytes) : Prop where
  quotes : read.count quote = written.count quote
  plain : plainCount delimiter written ≤ plainCount delimiter read

variable {delimiter : UInt8}

/-! ### Plain bytes of what is written -/

theorem plainCount_eq_zero (bs : Bytes) (h : ∀ b ∈ bs, isPlain delimiter b = false) :
    plainCount delimiter bs = 0 := by
  rw [plainCount, List.countP_eq_zero]
  intro b hb
  rw [h b hb]
  exact Bool.false_ne_true

theorem isPlain_quote : isPlain delimiter quote = false := by
  simp [isPlain]

theorem isPlain_delimiter : isPlain delimiter delimiter = false := by
  simp [isPlain]

theorem plainCount_doubleQuotes (field : Bytes) :
    plainCount delimiter (doubleQuotes field) = plainCount delimiter field := by
  induction field with
  | nil => rfl
  | cons b rest ih =>
    rw [doubleQuotes, plainCount_cons]
    split
    · rename_i hquote
      subst hquote
      rw [plainCount_cons, plainCount_cons, ih, isPlain_quote]
      rfl
    · rw [plainCount_cons, ih]

theorem plainCount_writeField (field : Bytes) :
    plainCount delimiter (writeField delimiter field) = plainCount delimiter field := by
  rw [writeField]
  split
  · rw [plainCount_cons, plainCount_append, plainCount_doubleQuotes, isPlain_quote,
      plainCount_eq_zero [quote] (by simp [isPlain_quote])]
    rfl
  · rfl

theorem plainCount_joinFields (record : List Bytes) :
    plainCount delimiter (joinFields delimiter record) =
      (record.map (plainCount delimiter)).sum := by
  induction record with
  | nil => rfl
  | cons field more ih =>
    cases more with
    | nil =>
      rw [joinFields_singleton, plainCount_writeField, List.map_singleton, List.sum_singleton]
    | cons next more =>
      rw [joinFields_cons_cons, plainCount_append, plainCount_cons, plainCount_writeField, ih,
        isPlain_delimiter, List.map_cons, List.sum_cons]
      rfl

theorem plainCount_writeRecord (record : List Bytes) :
    plainCount delimiter (writeRecord delimiter record) =
      (record.map (plainCount delimiter)).sum := by
  have hline : isPlain delimiter 0x0A = false := by simp [isPlain, isBreak]
  rw [writeRecord, plainCount_append, plainCount_eq_zero [0x0A] (by simp [hline]),
    ← plainCount_joinFields]
  split
  · rename_i hempty
    rw [List.isEmpty_iff.mp hempty, plainCount_eq_zero [quote, quote]
      (by simp [isPlain_quote])]
    rfl
  · rfl

/-- What is written has the plain bytes of the fields. -/
theorem plainCount_writeAll (records : List (List Bytes)) :
    plainCount delimiter (writeAll delimiter records) = plainTotal delimiter records := by
  induction records with
  | nil => rfl
  | cons record records ih =>
    rw [writeAll, List.flatMap_cons, plainCount_append, plainCount_writeRecord, ← writeAll, ih,
      plainTotal_cons]

/-! ### Lists that agree -/

section Lists

variable {α β : Type} {R : α → β → Prop} {f : α → Nat} {g : β → Nat} {as : List α} {bs : List β}

/-- Summands that are at least as large have a sum that is. -/
theorem sum_le_of_forall₂ (hle : ∀ a b, R a b → g b ≤ f a) (h : List.Forall₂ R as bs) :
    (bs.map g).sum ≤ (as.map f).sum := by
  induction h with
  | nil => exact Nat.le_refl 0
  | cons hab _ ih =>
    rw [List.map_cons, List.map_cons, List.sum_cons, List.sum_cons]
    exact Nat.add_le_add (hle _ _ hab) ih

/-- Summands that are at least as large are the same if their sum is no larger. -/
theorem forall₂_of_sum_le (hle : ∀ a b, R a b → g b ≤ f a) (h : List.Forall₂ R as bs)
    (hsum : (as.map f).sum ≤ (bs.map g).sum) :
    List.Forall₂ (fun a b => R a b ∧ f a = g b) as bs := by
  induction h with
  | nil => exact .nil
  | cons hab htail ih =>
    rw [List.map_cons, List.map_cons, List.sum_cons, List.sum_cons] at hsum
    have hhead := hle _ _ hab
    have hrest := sum_le_of_forall₂ hle htail
    exact .cons ⟨hab, by omega⟩ (ih (by omega))

/-- What the elements of one list have carries over to the related elements of the other. -/
theorem forall_mem_of_forall₂ {P : α → Prop} {Q : β → Prop} (himp : ∀ a b, R a b → P a → Q b)
    (h : List.Forall₂ R as bs) (hall : ∀ a ∈ as, P a) : ∀ b ∈ bs, Q b := by
  induction h with
  | nil => simp
  | cons hab _ ih =>
    rw [List.forall_mem_cons] at hall ⊢
    exact ⟨himp _ _ hab hall.1, ih hall.2⟩

end Lists

/-- A record whose fields agree has no fewer plain bytes than the one that was written. -/
theorem sum_plainCount_le (read written : List Bytes)
    (h : List.Forall₂ (Agrees delimiter) read written) :
    (written.map (plainCount delimiter)).sum ≤ (read.map (plainCount delimiter)).sum :=
  sum_le_of_forall₂ (fun _ _ hfield => hfield.plain) h

/-- Fields that agree have all plain bytes that were written. -/
theorem plainTotal_le {read written : List (List Bytes)}
    (h : List.Forall₂ (List.Forall₂ (Agrees delimiter)) read written) :
    plainTotal delimiter written ≤ plainTotal delimiter read :=
  sum_le_of_forall₂ sum_plainCount_le h

/-- If no more plain bytes were read than were written, every field has as many as it was written
with. -/
theorem plainCount_eq_of_agrees {read written : List (List Bytes)}
    (h : List.Forall₂ (List.Forall₂ (Agrees delimiter)) read written)
    (htotal : plainTotal delimiter read ≤ plainTotal delimiter written) :
    List.Forall₂ (List.Forall₂ fun r w => plainCount delimiter r = plainCount delimiter w)
      read written := by
  refine (forall₂_of_sum_le sum_plainCount_le h htotal).imp ?_
  rintro r w ⟨hrecord, hsum⟩
  refine (forall₂_of_sum_le (fun _ _ hfield => hfield.plain) hrecord (Nat.le_of_eq hsum)).imp ?_
  exact fun _ _ hfield => hfield.2

/-! ### The byte order mark -/

/-- Records that are read back do not start with a byte order mark. -/
theorem not_mark_of_agrees (hascii : delimiter.toNat < 0x80) {records : List (List Bytes)}
    (h : List.Forall₂ (List.Forall₂ (Agrees delimiter))
      (fieldsOf delimiter (writeAll delimiter records)) records) :
    ¬ mark <+: writeAll delimiter records := by
  rintro ⟨rest, hrest⟩
  -- The bytes of the mark are plain, but no field holds them.
  have hplain : ∀ b : UInt8, 0x80 ≤ b.toNat → isPlain delimiter b = true := by
    intro b hb
    rw [isPlain_iff]
    refine ⟨?_, ?_, ?_⟩
    · rintro rfl
      omega
    · rintro rfl
      exact absurd hb (by decide)
    · rw [isBreak, Bool.or_eq_false_iff]
      constructor <;>
      · rw [beq_eq_false_iff_ne]
        rintro rfl
        exact absurd hb (by decide)
  have hmark : plainCount delimiter mark = 3 := by
    simp [plainCount, mark, hplain]
  -- No more bytes were read than there are behind the mark, but all that were written.
  have htotal := plainTotal_le h
  have hwritten := congrArg (plainCount delimiter) hrest
  rw [← hrest, fieldsOf_mark, plainTotal_readFrom _ _ _ _ fun _ => ⟨rfl, rfl⟩] at htotal
  rw [plainCount_writeAll, plainCount_append, hmark] at hwritten
  simp only [List.map_nil, List.sum_nil, plainCount, List.countP_nil] at htotal hwritten
  omega

/-- A byte of ASCII stands behind the first field of what is written. -/
theorem exists_writeAll_eq (hascii : delimiter.toNat < 0x80) (field : Bytes) (more : List Bytes)
    (records : List (List Bytes)) : ∃ b rest, b.toNat < 0x80 ∧
      writeAll delimiter ((field :: more) :: records) =
        writeField delimiter field ++ b :: rest := by
  rw [writeAll, List.flatMap_cons, writeRecord]
  cases more with
  | nil =>
    rw [joinFields_singleton]
    cases hfield : writeField delimiter field with
    | nil => exact ⟨quote, _, by decide, rfl⟩
    | cons b rest => exact ⟨0x0A, records.flatMap (writeRecord delimiter), by decide, by simp⟩
  | cons next more =>
    rw [joinFields_cons_cons]
    have hempty : (writeField delimiter field ++
        delimiter :: joinFields delimiter (next :: more)).isEmpty = false := by simp
    rw [hempty, if_neg Bool.false_ne_true]
    exact ⟨delimiter, joinFields delimiter (next :: more) ++ 0x0A ::
      records.flatMap (writeRecord delimiter), hascii, by simp⟩

/-- What is written starts with a mark exactly if the first field does, without quotes. -/
theorem mark_prefix_writeAll_iff (hascii : delimiter.toNat < 0x80) (field : Bytes)
    (more : List Bytes) (records : List (List Bytes)) :
    mark <+: writeAll delimiter ((field :: more) :: records) ↔
      needsQuotes delimiter field = false ∧ mark <+: field := by
  obtain ⟨b, rest, hb, heq⟩ := exists_writeAll_eq hascii field more records
  rw [heq, mark_prefix_append_iff hb, writeField]
  cases needsQuotes delimiter field with
  | true => simp [mark, quote]
  | false => simp

/-! ### Fields that can be told apart -/

/-- A field that another one follows was written with a plain byte if it was read with one. -/
theorem forall_dropLast_of_forall₂ {read written : List Bytes}
    (h : List.Forall₂ (fun r w => plainCount delimiter r = plainCount delimiter w) read written)
    (hread : ∀ field ∈ read.dropLast, 0 < plainCount delimiter field) :
    ∀ field ∈ written.dropLast, 0 < plainCount delimiter field := by
  induction h with
  | nil => simp
  | cons hab htail ih =>
    cases htail with
    | nil => simp
    | cons hab' htail' =>
      intro field hfield
      rw [List.dropLast_cons_cons] at hfield hread
      rcases List.mem_cons.mp hfield with rfl | hfield
      · rw [← hab]
        exact hread _ (List.mem_cons_self ..)
      · exact ih (fun other hother => hread other (List.mem_cons_of_mem _ hother)) field hfield

/-- A field between quotes that a quote follows is read with that quote. -/
theorem readFrom_quoted {start : Place} (hstart : start.IsStart) {field : Bytes}
    (hquotes : needsQuotes quote field = true) (before : List Bytes) (rest : Bytes) :
    readFrom quote start [] before (writeField quote field ++ quote :: rest) =
      readFrom quote .inQuotes (field ++ [quote]) before rest := by
  have hmove : Place.afterQuote.move quote quote = .keep .inQuotes := rfl
  rw [readFrom_writeField hstart, placeAfter, if_pos hquotes, readFrom_keep _ _ _ hmove]

/-- The fields of a line that are read back can be told apart, if the ones that another one follows
are not empty. -/
theorem separable_of_readFrom (rest : Bytes) (record : List Bytes) :
    ∀ (start : Place) (before read : List Bytes) (others : List (List Bytes)), start.IsStart →
      (∀ field ∈ record.dropLast, field ≠ []) →
      readFrom quote start [] before (joinFields quote record ++ rest) = read :: others →
      List.Forall₂ (Agrees quote) read (before ++ record) →
        ∀ field ∈ record.dropLast, needsQuotes quote field = false := by
  induction record with
  | nil => simp
  | cons field more ih =>
    intro start before read others hstart hne hread hagrees
    cases more with
    | nil => simp
    | cons next more =>
      rw [List.dropLast_cons_cons] at hne ⊢
      rw [joinFields_cons_cons, List.append_assoc, List.cons_append] at hread
      cases hquotes : needsQuotes quote field with
      | true =>
        -- The field is read with the quote that follows it.
        rw [readFrom_quoted hstart hquotes] at hread
        obtain ⟨kept, tail, records, heq⟩ := exists_readFrom_eq_cons quote
          (joinFields quote (next :: more) ++ rest) .inQuotes (field ++ [quote]) before (by simp)
        obtain ⟨rfl, _⟩ := List.cons.inj (hread.symm.trans heq)
        have hfield : Agrees quote (field ++ [quote] ++ kept) field := by
          have hdrop := List.forall₂_drop before.length hagrees
          rw [List.drop_left, List.drop_left] at hdrop
          exact (List.forall₂_cons.mp hdrop).1
        have hcount := hfield.quotes
        rw [List.count_append, List.count_append, List.count_singleton_self] at hcount
        omega
      | false =>
        have hfield : field ≠ [] := hne field (List.mem_cons_self ..)
        have hplace : placeAfter quote start field = .inField := by
          rw [placeAfter, hquotes, if_neg Bool.false_ne_true, if_neg hfield]
        have hend : Place.inField.move quote quote = .endField := rfl
        rw [readFrom_writeField hstart, hplace, readFrom_endField _ _ _ hend] at hread
        have hrest := ih .fieldStart (before ++ [field]) read others (.inr rfl)
          (fun other hother => hne other (List.mem_cons_of_mem _ hother)) hread
          (by rwa [List.append_assoc, List.singleton_append])
        intro other hother
        rcases List.mem_cons.mp hother with rfl | hother
        · exact hquotes
        · exact hrest other hother

/-- The fields of a line that is read back can be told apart, if the ones that another one follows
are not empty. -/
theorem separable_of_writeRecord {record read : List Bytes} {others : List (List Bytes)}
    {rest : Bytes} (hnil : record ≠ []) (hne : ∀ field ∈ record.dropLast, field ≠ [])
    (hread : readFrom quote .betweenRecords [] [] (writeRecord quote record ++ rest) =
      read :: others)
    (hagrees : List.Forall₂ (Agrees quote) read record) : Separable quote record := by
  intro _ field hfield
  refine ⟨hne field hfield, ?_⟩
  by_cases hline : joinFields quote record = []
  · rw [eq_of_joinFields_eq_nil hnil hline] at hfield
    cases hfield
  · have hempty : (joinFields quote record).isEmpty = false := by simpa using hline
    rw [writeRecord, hempty, if_neg Bool.false_ne_true, List.append_assoc] at hread
    exact separable_of_readFrom _ record .betweenRecords [] read others (.inl rfl) hne hread hagrees
      field hfield

/-- The fields of records that are read back can be told apart, if the ones that another one
follows are not empty. -/
theorem separable_of_writeAll (records : List (List Bytes))
    (hne : ∀ record ∈ records, record ≠ [] ∧ ∀ field ∈ record.dropLast, field ≠ [])
    (h : List.Forall₂ (List.Forall₂ (Agrees quote))
      (readFrom quote .betweenRecords [] [] (writeAll quote records)) records) :
    ∀ record ∈ records, Separable quote record := by
  induction records with
  | nil => simp
  | cons record records ih =>
    obtain ⟨hnil, hfields⟩ := hne record (List.mem_cons_self ..)
    rw [writeAll, List.flatMap_cons, ← writeAll] at h
    obtain ⟨read, others, hagrees, hothers, hread⟩ := List.forall₂_cons_right_iff.mp h
    -- The first line is read as it was written, so the rest is read on its own.
    have hseparable := separable_of_writeRecord hnil hfields hread hagrees
    rw [readFrom_writeRecord rfl hnil hseparable] at hread
    obtain ⟨_, rfl⟩ := List.cons.inj hread
    intro other hother
    rcases List.mem_cons.mp hother with rfl | hother
    · exact hseparable
    · exact ih (fun _ hmem => hne _ (List.mem_cons_of_mem _ hmem)) hothers other hother

/-- If the delimiter is a quote, a field that another one follows is not read back if it is
empty. -/
theorem ne_nil_of_agrees {records : List (List Bytes)}
    (h : List.Forall₂ (List.Forall₂ (Agrees quote))
      (readFrom quote .betweenRecords [] [] (writeAll quote records)) records) :
    ∀ record ∈ records, ∀ field ∈ record.dropLast, field ≠ [] := by
  -- All plain bytes are read, so each field gets its own ones back: some, if it is not the last.
  have htotal : plainTotal quote (readFrom quote .betweenRecords [] [] (writeAll quote records)) =
      plainTotal quote records := by
    rw [plainTotal_readFrom _ _ _ _ fun _ => ⟨rfl, rfl⟩, plainCount_writeAll]
    simp [plainCount]
  have hcounts := plainCount_eq_of_agrees h (Nat.le_of_eq htotal)
  have hread := plainCount_pos_of_readFrom (writeAll quote records) .betweenRecords [] [] (by simp)
    (by simp)
  have hwritten : ∀ record ∈ records, ∀ field ∈ record.dropLast, 0 < plainCount quote field :=
    forall_mem_of_forall₂ (P := fun record => ∀ field ∈ record.dropLast, 0 < plainCount quote field)
      (fun _ _ hrecord hall => forall_dropLast_of_forall₂ hrecord hall) hcounts hread
  rintro record hrecord _ hfield rfl
  exact absurd (hwritten record hrecord [] hfield) (Nat.lt_irrefl 0)

/-- The fields of records that are read back can be told apart. -/
theorem separable_of_agrees (hascii : delimiter.toNat < 0x80) {records : List (List Bytes)}
    (hne : ∀ record ∈ records, record ≠ [])
    (h : List.Forall₂ (List.Forall₂ (Agrees delimiter))
      (fieldsOf delimiter (writeAll delimiter records)) records) :
    ∀ record ∈ records, Separable delimiter record := by
  by_cases hd : delimiter = quote
  · subst hd
    rw [fieldsOf_of_not_mark quote (not_mark_of_agrees hascii h)] at h
    exact separable_of_writeAll records
      (fun record hrecord => ⟨hne record hrecord, ne_nil_of_agrees h record hrecord⟩) h
  · exact fun _ _ h => absurd h hd

end PageMerge.Csv
