import PageMerge.Proofs.Csv.Starts

/-!
# Lines on which records start

A line feed, a carriage return and a pair of both end a line of a text. The line that the reader
reports for a record counts the line feeds up to the break that ends the record before it. So it
leaves out the breaks that come after this one, and the carriage returns that have no line feed, and
is the line on which the record starts exactly if there are none of both.

## Main definitions

* `lineEnds`, `lineAt`: the ends of lines, and the line of a place
* `ReturnsPaired`: each carriage return has its line feed
* `Reported`: what is reported as the line of a record

## Main results

* `count_eq_lineEnds_iff`: when only line feeds end lines
* `exists_reported`: the line that is reported for a record
* `lineAt_lt`: records start on lines of their own
-/

namespace PageMerge.Csv

open PageMerge.Text (Bytes)

section Texts

variable {delimiter : UInt8} {front rest bytes : Bytes}

/-! ### Real lines -/

/-- The number of lines that end within bytes: a line feed, a carriage return and a pair of both end
one line. -/
def lineEnds : Bytes → Nat
  | [] => 0
  | b :: rest =>
    if b = lineFeed ∨ b = carriageReturn ∧ rest.head? ≠ some lineFeed then lineEnds rest + 1
    else lineEnds rest

/-- The line of a place in a text, the first line being line one. -/
def lineAt (bytes : Bytes) (offset : Nat) : Nat := lineEnds (bytes.take offset) + 1

/-- Each carriage return has a line feed right after it. -/
def ReturnsPaired (bs : Bytes) : Prop :=
  ∀ i, bs[i]? = some carriageReturn → bs[i + 1]? = some lineFeed

theorem returnsPaired_cons_iff {b : UInt8} : ReturnsPaired (b :: rest) ↔
    (b = carriageReturn → rest.head? = some lineFeed) ∧ ReturnsPaired rest := by
  constructor
  · intro h
    exact ⟨fun hb => by simpa [List.head?_eq_getElem?] using h 0 (congrArg some hb),
      fun i => h (i + 1)⟩
  · rintro ⟨hfirst, hrest⟩ (_ | i) hi
    · simpa [List.head?_eq_getElem?] using hfirst (Option.some.inj hi)
    · exact hrest i hi

/-- Each line feed ends a line. -/
theorem count_le_lineEnds (bs : Bytes) : bs.count lineFeed ≤ lineEnds bs := by
  induction bs with
  | nil => exact Nat.le_refl 0
  | cons b rest ih =>
    rw [List.count_cons, lineEnds]
    split_ifs with hfeed hends
    · exact Nat.succ_le_succ ih
    · exact absurd (.inl (eq_of_beq hfeed)) hends
    · exact Nat.le_succ_of_le ih
    · exact ih

/-- Only line feeds end lines exactly if each carriage return has its line feed. -/
theorem count_eq_lineEnds_iff (bs : Bytes) :
    bs.count lineFeed = lineEnds bs ↔ ReturnsPaired bs := by
  induction bs with
  | nil => exact iff_of_true rfl fun i h => by simp at h
  | cons b rest ih =>
    have hle := count_le_lineEnds rest
    rw [returnsPaired_cons_iff, ← ih, List.count_cons, lineEnds]
    split_ifs with hfeed hends hends
    · have hreturn : b ≠ carriageReturn := by
        rw [eq_of_beq hfeed]
        decide
      rw [Nat.add_right_cancel_iff, and_iff_right fun h => absurd h hreturn]
    · exact absurd (.inl (eq_of_beq hfeed)) hends
    · -- A carriage return without a line feed ends a line.
      obtain ⟨hreturn, hnext⟩ := hends.resolve_left fun h => hfeed (beq_of_eq h)
      exact iff_of_false (by omega) fun h => hnext (h.1 hreturn)
    · obtain ⟨_, hpaired⟩ := not_or.mp hends
      rw [Nat.add_zero]
      exact (and_iff_right fun h => not_not.mp fun hne => hpaired ⟨h, hne⟩).symm

theorem lineEnds_append (hrest : rest.head? ≠ some lineFeed) :
    lineEnds (front ++ rest) = lineEnds front + lineEnds rest := by
  induction front with
  | nil => rw [List.nil_append, lineEnds, Nat.zero_add]
  | cons b front ih =>
    have hhead : (front ++ rest).head? = some lineFeed ↔ front.head? = some lineFeed := by
      cases front with
      | nil => exact iff_of_false hrest (by simp)
      | cons c front => exact Iff.rfl
    rw [List.cons_append, lineEnds, lineEnds, ih]
    simp only [ne_eq, hhead]
    split_ifs
    · exact Nat.add_right_comm ..
    · rfl

/-- A line ends with a break. -/
theorem lineEnds_pos {b : UInt8} (hb : isBreak b = true) (front : Bytes) :
    0 < lineEnds (front ++ [b]) := by
  induction front with
  | nil => rcases eq_of_isBreak hb with rfl | rfl <;> decide
  | cons c front ih =>
    rw [List.cons_append, lineEnds]
    split_ifs
    · exact Nat.succ_pos _
    · exact ih

/-! ### Reported lines -/

/-- What is reported as the line of the record that starts at an offset. It is not past the real
one, and is the real one exactly if the byte right before the record ends the record before it, and
each carriage return before the record has its line feed. -/
structure Reported (delimiter : UInt8) (bytes : Bytes) (n line offset : Nat) : Prop where
  startsAt : StartsAt delimiter bytes n offset
  unique : ∀ other, StartsAt delimiter bytes n other → other = offset
  line_le : line ≤ lineAt bytes offset
  line_eq_iff : line = lineAt bytes offset ↔
    ¬Closed delimiter (bytes.take (offset - 1)) ∧ ReturnsPaired (bytes.take offset)

/-- The line feeds before a gap are all line ends up to its end exactly if there is no gap, and each
carriage return has its line feed. -/
theorem count_eq_lineEnds_append_iff {passed gap : Bytes} (hgap : ∀ b ∈ gap, isBreak b = true) :
    passed.count lineFeed = lineEnds (passed ++ gap) ↔ gap = [] ∧ ReturnsPaired (passed ++ gap) := by
  have hle := count_le_lineEnds (passed ++ gap)
  have hcount : (passed ++ gap).count lineFeed = _ := List.count_append
  constructor
  · intro h
    have hpaired : ReturnsPaired (passed ++ gap) :=
      (count_eq_lineEnds_iff _).mp (by omega)
    refine ⟨?_, hpaired⟩
    -- The last byte of a gap without line feeds would be a carriage return without one.
    rcases List.eq_nil_or_concat' gap with hnil | ⟨front, b, rfl⟩
    · exact hnil
    rcases eq_of_isBreak (hgap b (by simp)) with rfl | rfl
    · have hpos : 0 < (front ++ [lineFeed]).count lineFeed := List.count_pos_iff.mpr (by simp)
      omega
    · rw [← List.append_assoc] at hpaired
      have hnext := hpaired (passed ++ front).length (by simp)
      rw [List.getElem?_eq_none (by simp; omega)] at hnext
      cases hnext
  · rintro ⟨rfl, hpaired⟩
    rw [List.append_nil] at hpaired ⊢
    exact (count_eq_lineEnds_iff _).mpr hpaired

/-- The line of a record other than the first one, and when it is the real one. -/
theorem exists_reported {n : Nat} {record : Record}
    (h : (records delimiter bytes)[n + 1]? = some record) :
    ∃ offset, Reported delimiter bytes (n + 1) record.start.line offset := by
  obtain ⟨passed, gap, hfront, hstarts, hgap, hline, hclosed⟩ := exists_startsAt h
  have htake : bytes.take (passed ++ gap).length = passed ++ gap :=
    (List.prefix_iff_eq_take.mp hfront).symm
  have hbefore : bytes.take ((passed ++ gap).length - 1) = (passed ++ gap).dropLast := by
    rw [List.dropLast_eq_take, ← htake, List.take_take, htake, min_eq_left (Nat.sub_le ..)]
  refine ⟨(passed ++ gap).length, hstarts, fun other hother => startsAt_unique hother hstarts,
    ?_, ?_⟩
  · rw [hline, lineAt, htake]
    have hle := count_le_lineEnds (passed ++ gap)
    rw [List.count_append] at hle
    omega
  · rw [hline, lineAt, htake, hbefore, hclosed, not_not, Nat.add_right_cancel_iff]
    exact count_eq_lineEnds_append_iff hgap

/-- A later record starts on a later line. -/
theorem lineAt_lt {n m i j : Nat} (h : StartsAt delimiter bytes (n + 1) i)
    (h' : StartsAt delimiter bytes (m + 1) j) (hnm : n < m) : lineAt bytes i < lineAt bytes j := by
  have hij : i < j := by
    rcases Nat.lt_trichotomy i j with hlt | rfl | hlt
    · exact hlt
    · have heq := h.length_records.symm.trans h'.length_records
      omega
    · have hlt := h'.lt h hlt
      omega
  obtain ⟨b, hget, hb⟩ := h.opens
  obtain ⟨more, hmore⟩ := exists_take_eq hget hij
  have hfeed : (b :: more).head? ≠ some lineFeed := by
    rintro hfeed
    obtain rfl := Option.some.inj hfeed
    cases hb
  -- The earlier record and what comes before the later one ends with a break.
  obtain ⟨ahead, c, hlast⟩ := (List.eq_nil_or_concat' (b :: more)).resolve_left (by simp)
  have hc : isBreak c = true :=
    h'.isBreak_of_getLast? (by rw [hmore, hlast, ← List.append_assoc, List.getLast?_concat])
  rw [lineAt, lineAt, hmore, lineEnds_append hfeed, hlast]
  have hpos := lineEnds_pos hc ahead
  omega

end Texts

end PageMerge.Csv
