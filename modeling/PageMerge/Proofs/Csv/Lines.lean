import Mathlib.Data.List.Chain
import PageMerge.Csv.Record

/-!
# Lines of records

The line of a record counts the line feeds before the break that ends the record before it. So two
records have the same line if no line feed was passed between them, which happens when they are
ended by carriage returns, or by breaks of both kinds in turn. If all breaks of a text are of one
kind, line feeds alone or pairs of a carriage return and a line feed, each record after the header
has a line of its own.

## Main definitions

* `UniformBreaks`: all breaks of a text are of one kind
* `Begins`: where a record is looked for, and what was passed before

## Main results

* `begins_of_mem_records`: where the records of a text are looked for
* `pairwise_line_of_uniform`: in a text with uniform breaks, rows have lines of their own
-/

namespace PageMerge.Csv

open PageMerge.Text (Bytes)

/-- The byte of a line feed. -/
def lineFeed : UInt8 := 0x0A

/-- The byte of a carriage return. -/
def carriageReturn : UInt8 := 0x0D

/-- All breaks of a text are of one kind: there is no carriage return in it, or a carriage return
stands right before each line feed and nowhere else. -/
def UniformBreaks (bs : Bytes) : Prop :=
  carriageReturn ∉ bs ∨ bs.IsChain fun a b => a = carriageReturn ↔ b = lineFeed

/-- A record is looked for after the bytes that were passed: at the very start, or after a break
that ended the record before it. A line feed that ends a record has no carriage return before it,
which would have ended the record itself. -/
structure Begins (passed : Bytes) (start : Position) : Prop where
  byte : start.byte = passed.length
  line : start.line = passed.count lineFeed + 1
  ended : passed ≠ [] → ∃ front b, passed = front ++ [b] ∧ isBreak b = true ∧
    (b = lineFeed → ∃ a, front.getLast? = some a ∧ a ≠ carriageReturn)

/-! ### The reader and what it has passed -/

/-- A break that ends a record is no part of a quoted field, and does not stand between records. -/
theorem isBreak_of_endRecord {delimiter b : UInt8} {place : Place}
    (h : place.move delimiter b = .endRecord) :
    isBreak b = true ∧ place ≠ .betweenRecords ∧ place ≠ .inQuotes := by
  cases place <;> grind [Place.move]

/-- A carriage return that is not the delimiter ends the record, unless it is part of a quoted
field. -/
theorem place_of_carriageReturn {delimiter : UInt8} (hdelimiter : isBreak delimiter = false)
    (scan : Scan) : (scan.step delimiter carriageReturn).1.place = .betweenRecords ∨
      (scan.step delimiter carriageReturn).1.place = .inQuotes := by
  have hne : carriageReturn ≠ delimiter := by
    rintro rfl
    cases hdelimiter
  have hbreak : isBreak carriageReturn = true := rfl
  have hquote : carriageReturn ≠ quote := by decide
  cases hplace : scan.place <;>
    simp [Scan.step, Place.move, hplace, hne, hbreak, hquote]

theorem Scan.line_step (delimiter : UInt8) (scan : Scan) (b : UInt8) :
    (scan.step delimiter b).1.line = scan.line + [b].count lineFeed := by
  have hstep : (scan.step delimiter b).1.line =
      if b = lineFeed then scan.line + 1 else scan.line := by
    rw [Scan.step]
    cases scan.place.move delimiter b <;> rfl
  rw [hstep, List.count_singleton]
  split <;> simp_all

/-- The reader has passed the bytes. -/
structure Scan.HasPassed (scan : Scan) (passed : Bytes) : Prop where
  byte : scan.byte = passed.length
  line : scan.line = passed.count lineFeed + 1
  start : ∃ before, before <+: passed ∧ Begins before scan.start
  idle : passed = [] → scan.place = .betweenRecords
  afterReturn : passed.getLast? = some carriageReturn →
    scan.place = .betweenRecords ∨ scan.place = .inQuotes

theorem Scan.hasPassed_atStart (passed : Bytes) (hcount : passed.count lineFeed = 0)
    (hlast : passed.getLast? ≠ some carriageReturn) :
    (Scan.atStart passed.length).HasPassed passed where
  byte := rfl
  line := by
    rw [hcount]
    rfl
  start := ⟨[], List.nil_prefix, rfl, rfl, fun h => absurd rfl h⟩
  idle _ := rfl
  afterReturn h := absurd h hlast

section Step

variable {delimiter : UInt8} {scan : Scan} {passed : Bytes}

theorem Scan.HasPassed.byte_step (h : scan.HasPassed passed) (b : UInt8) :
    (scan.step delimiter b).1.byte = (passed ++ [b]).length := by
  have hstep : (scan.step delimiter b).1.byte = scan.byte + 1 := by
    rw [Scan.step]
    cases scan.place.move delimiter b <;> rfl
  rw [hstep, h.byte, List.length_append, List.length_singleton]

theorem Scan.HasPassed.line_step (h : scan.HasPassed passed) (b : UInt8) :
    (scan.step delimiter b).1.line = (passed ++ [b]).count lineFeed + 1 := by
  rw [Scan.line_step, h.line, List.count_append, Nat.add_right_comm]

/-- The reader goes on with its record, or a break ends it, and the next one is looked for after
that. -/
theorem Scan.step_cases (delimiter : UInt8) (scan : Scan) (b : UInt8) :
    ((scan.step delimiter b).2 = none ∧ (scan.step delimiter b).1.start = scan.start) ∨
    ((scan.step delimiter b).2 = some scan.record ∧
      scan.place.move delimiter b = .endRecord ∧
      (scan.step delimiter b).1.start.byte = (scan.step delimiter b).1.byte ∧
      (scan.step delimiter b).1.start.line = (scan.step delimiter b).1.line) := by
  rw [Scan.step]
  cases hmove : scan.place.move delimiter b with
  | endRecord => exact .inr ⟨rfl, rfl, rfl, rfl⟩
  | _ => exact .inl ⟨rfl, rfl⟩

/-- The reader passes a byte. -/
theorem Scan.HasPassed.step (h : scan.HasPassed passed) (hdelimiter : isBreak delimiter = false)
    (b : UInt8) : (scan.step delimiter b).1.HasPassed (passed ++ [b]) where
  byte := h.byte_step b
  line := h.line_step b
  start := by
    rcases Scan.step_cases delimiter scan b with
      ⟨_, hstart⟩ | ⟨_, hmove, hbyte, hline⟩
    · obtain ⟨before, hbefore, hbegins⟩ := h.start
      rw [hstart]
      exact ⟨before, hbefore.trans (List.prefix_append ..), hbegins⟩
    · obtain ⟨hbreak, hbetween, hquotes⟩ := isBreak_of_endRecord hmove
      refine ⟨passed ++ [b], List.prefix_rfl, hbyte.trans (h.byte_step b),
        hline.trans (h.line_step b), fun _ => ⟨passed, b, rfl, hbreak, fun _ => ?_⟩⟩
      -- A record that ends has begun with a byte, and this was no carriage return.
      obtain ⟨a, ha⟩ := Option.ne_none_iff_exists'.mp fun hnone =>
        hbetween (h.idle (List.getLast?_eq_none_iff.mp hnone))
      refine ⟨a, ha, ?_⟩
      rintro rfl
      exact (h.afterReturn ha).elim hbetween hquotes
  idle hnil := by simp at hnil
  afterReturn hlast := by
    obtain rfl : b = carriageReturn := by simpa using hlast
    exact place_of_carriageReturn hdelimiter scan

end Step

/-! ### Records of a text -/

theorem Scan.records_cons (delimiter : UInt8) (scan : Scan) (b : UInt8) (rest : Bytes) :
    scan.records delimiter (b :: rest) =
      (scan.step delimiter b).2.toList ++ (scan.step delimiter b).1.records delimiter rest := by
  rw [Scan.records]
  generalize scan.step delimiter b = stepped
  obtain ⟨next, _ | record⟩ := stepped <;> rfl

section Records

variable {delimiter : UInt8} (hdelimiter : isBreak delimiter = false)

include hdelimiter

/-- The records that a reader finds begin one after the other, each after bytes of the text. -/
theorem Scan.HasPassed.begins (rest : Bytes) : ∀ {scan : Scan} {passed : Bytes},
    scan.HasPassed passed →
      (scan.records delimiter rest).Pairwise (·.start.byte < ·.start.byte) ∧
      ∀ record ∈ scan.records delimiter rest, scan.start.byte ≤ record.start.byte ∧
        ∃ before, before <+: passed ++ rest ∧ Begins before record.start := by
  induction rest with
  | nil =>
    intro scan passed h
    rw [Scan.records]
    split
    · exact ⟨.nil, by simp⟩
    · refine ⟨List.pairwise_singleton _ _, List.forall_mem_singleton.mpr ⟨Nat.le_refl _, ?_⟩⟩
      rw [List.append_nil]
      exact h.start
  | cons b rest ih =>
    intro scan passed h
    obtain ⟨hpairwise, hrecords⟩ := ih (h.step hdelimiter b)
    rw [List.append_assoc, List.singleton_append] at hrecords
    rw [Scan.records_cons]
    rcases Scan.step_cases delimiter scan b with
      ⟨hnone, hstart⟩ | ⟨hsome, _, hbyte, _⟩
    · rw [hnone]
      rw [hstart] at hrecords
      exact ⟨hpairwise, hrecords⟩
    · rw [hsome]
      obtain ⟨before, hbefore, hbegins⟩ := h.start
      have hlt : scan.start.byte < (scan.step delimiter b).1.start.byte := by
        rw [hbyte, h.byte_step, List.length_append, hbegins.byte]
        exact Nat.lt_succ_of_le hbefore.length_le
      refine ⟨List.pairwise_cons.mpr ⟨?_, hpairwise⟩, List.forall_mem_cons.mpr ⟨?_, ?_⟩⟩
      · intro record hrecord
        exact Nat.lt_of_lt_of_le hlt (hrecords record hrecord).1
      · exact ⟨Nat.le_refl _, before, hbefore.trans (List.prefix_append ..), hbegins⟩
      · intro record hrecord
        exact ⟨Nat.le_of_lt (Nat.lt_of_lt_of_le hlt (hrecords record hrecord).1),
          (hrecords record hrecord).2⟩

/-- The records of a text begin one after the other, each after bytes of the text. -/
theorem begins_of_mem_records (bs : Bytes) :
    (records delimiter bs).Pairwise (·.start.byte < ·.start.byte) ∧
    ∀ record ∈ records delimiter bs, ∃ before, before <+: bs ∧ Begins before record.start := by
  unfold records
  split
  -- The byte order mark is passed over, but counts among the bytes.
  · rename_i rest
    obtain ⟨hpairwise, hrecords⟩ := Scan.HasPassed.begins hdelimiter rest
      (Scan.hasPassed_atStart [0xEF, 0xBB, 0xBF] rfl (by decide))
    exact ⟨hpairwise, fun record hrecord => (hrecords record hrecord).2⟩
  · obtain ⟨hpairwise, hrecords⟩ := Scan.HasPassed.begins hdelimiter bs
      (Scan.hasPassed_atStart [] rfl (by decide))
    exact ⟨hpairwise, fun record hrecord => (hrecords record hrecord).2⟩

end Records

/-! ### Uniform breaks -/

theorem eq_of_isBreak {b : UInt8} (h : isBreak b = true) : b = lineFeed ∨ b = carriageReturn := by
  simpa [isBreak, lineFeed, carriageReturn] using h

/-- If all breaks are of one kind, a line feed is passed between two records, of which the first one
is not at the very start. -/
theorem line_lt_of_uniform {bs passed passed' : Bytes} (huniform : UniformBreaks bs)
    (hbefore : passed <+: bs) (hbefore' : passed' <+: bs) {start start' : Position}
    (h : Begins passed start) (h' : Begins passed' start') (hne : passed ≠ [])
    (hlt : start.byte < start'.byte) : start.line < start'.line := by
  rw [h.byte, h'.byte] at hlt
  obtain ⟨rest, rfl⟩ := List.prefix_of_prefix_length_le hbefore hbefore' (Nat.le_of_lt hlt)
  have hrest : rest ≠ [] := by
    rintro rfl
    simp at hlt
  suffices hfeed : lineFeed ∈ rest by
    rw [h.line, h'.line, List.count_append]
    have hpos := List.count_pos_iff.mpr hfeed
    omega
  rcases huniform with hnone | hchain
  -- The last byte passed is a break, and so a line feed.
  · obtain ⟨front, b, hpassed, hbreak, _⟩ := h'.ended (by simp [hrest])
    have hlast : rest.getLast? = some b := by
      rw [← List.getLast?_append_of_ne_nil passed hrest, hpassed, List.getLast?_concat]
    rcases eq_of_isBreak hbreak with rfl | rfl
    · exact List.mem_of_getLast? hlast
    · exact absurd (hbefore'.subset (List.mem_append_right _ (List.mem_of_getLast? hlast))) hnone
  -- The break before the first of the two is a carriage return, and its line feed comes next.
  · obtain ⟨front, b, rfl, hbreak, hfront⟩ := h.ended hne
    obtain ⟨c, rest, rfl⟩ := List.exists_cons_of_ne_nil hrest
    obtain ⟨more, rfl⟩ := hbefore'
    obtain ⟨hfirst, -, hnext⟩ := List.isChain_append.mp (List.isChain_append.mp hchain).1
    have hreturn : b = carriageReturn := by
      rcases eq_of_isBreak hbreak with hfeed | hreturn
      · obtain ⟨a, ha, hne⟩ := hfront hfeed
        have hpair := (List.isChain_append.mp hfirst).2.2 a ha b rfl
        exact absurd (hpair.mpr hfeed) hne
      · exact hreturn
    have hfeed : c = lineFeed := (hnext b (by simp) c rfl).mp hreturn
    rw [hfeed]
    exact List.mem_cons_self ..

/-- If all breaks of a text are of one kind, each record after the first one has a line of its
own. -/
theorem pairwise_line_of_uniform {delimiter : UInt8} (hdelimiter : isBreak delimiter = false)
    {bs : Bytes} (huniform : UniformBreaks bs) {first : Record} {rest : List Record}
    (h : records delimiter bs = first :: rest) : rest.Pairwise (·.start.line < ·.start.line) := by
  obtain ⟨hpairwise, hbegins⟩ := begins_of_mem_records hdelimiter bs
  rw [h] at hpairwise hbegins
  obtain ⟨hfirst, hrest⟩ := List.pairwise_cons.mp hpairwise
  refine hrest.imp_of_mem fun {record record'} hrecord hrecord' hlt => ?_
  obtain ⟨passed, hbefore, hpassed⟩ := hbegins record (List.mem_cons_of_mem _ hrecord)
  obtain ⟨passed', hbefore', hpassed'⟩ := hbegins record' (List.mem_cons_of_mem _ hrecord')
  refine line_lt_of_uniform huniform hbefore hbefore' hpassed hpassed' ?_ hlt
  rintro rfl
  have hlater := hfirst record hrecord
  rw [hpassed.byte] at hlater
  exact absurd hlater (Nat.not_lt_zero _)

end PageMerge.Csv
