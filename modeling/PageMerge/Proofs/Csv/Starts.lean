import Mathlib.Data.List.Infix
import PageMerge.Proofs.Csv.Lines
import PageMerge.Proofs.Csv.Reading

/-!
# Where records start

A record starts with the first byte after the records before it that is no break. What is before it
is closed: whatever comes next, its records stay what they are. The reader looks for a record right
after the break that ends the record before it, which need not be where it starts, since other
breaks can come in between.

## Main definitions

* `Scan.after`, `Scan.ended`: the reader after bytes, and the records that end within them
* `Scan.Search`: the bytes up to a record
* `Closed`: no continuation changes the records of bytes
* `StartsAt`: the place in a text where a record starts

## Main results

* `Scan.exists_search`: where the reader looks for a record
* `closed_iff`: the reader is between records exactly after closed bytes
* `startsAt_unique`, `exists_startsAt`: a record starts at one place
-/

namespace PageMerge.Csv

open PageMerge.Text (Bytes)

/-! ### The reader after bytes -/

namespace Scan

/-- The reader after bytes. -/
def after (delimiter : UInt8) (scan : Scan) (bs : Bytes) : Scan :=
  bs.foldl (fun scan b => (scan.step delimiter b).1) scan

/-- The records that end within bytes. -/
def ended (delimiter : UInt8) (scan : Scan) : Bytes → List Record
  | [] => []
  | b :: rest =>
    (scan.step delimiter b).2.toList ++ (scan.step delimiter b).1.ended delimiter rest

variable {delimiter : UInt8}

theorem after_append (scan : Scan) (front rest : Bytes) :
    scan.after delimiter (front ++ rest) = (scan.after delimiter front).after delimiter rest :=
  List.foldl_append

theorem ended_append (front rest : Bytes) : ∀ scan : Scan,
    scan.ended delimiter (front ++ rest) =
      scan.ended delimiter front ++ (scan.after delimiter front).ended delimiter rest := by
  induction front with
  | nil => exact fun _ => rfl
  | cons b front ih =>
    intro scan
    rw [List.cons_append, ended, ih, ended, List.append_assoc]
    rfl

/-- The records of bytes are those that end within their front, and those of the rest. -/
theorem records_append (front rest : Bytes) : ∀ scan : Scan,
    scan.records delimiter (front ++ rest) =
      scan.ended delimiter front ++ (scan.after delimiter front).records delimiter rest := by
  induction front with
  | nil => exact fun _ => rfl
  | cons b front ih =>
    intro scan
    rw [List.cons_append, records_cons, ih, ended, List.append_assoc]
    rfl

/-- The records of bytes are those that end within them, and the one that is left open. -/
theorem records_eq (scan : Scan) (front : Bytes) : scan.records delimiter front =
    scan.ended delimiter front ++
      if (scan.after delimiter front).place = .betweenRecords then []
      else [(scan.after delimiter front).record] := by
  have h : scan.records delimiter (front ++ []) = _ := records_append front [] scan
  rwa [List.append_nil, records] at h

/-- Between records the reader passes over a break. Any other byte opens a record, or goes on with
the one that is open, unless it is a break that ends it. -/
theorem place_step_cases (delimiter : UInt8) (scan : Scan) (b : UInt8) :
    (scan.place = .betweenRecords ∧ isBreak b = true ∧ (scan.step delimiter b).2 = none ∧
      (scan.step delimiter b).1.place = .betweenRecords) ∨
    ((scan.place = .betweenRecords → isBreak b = false) ∧ (scan.step delimiter b).2 = none ∧
      (scan.step delimiter b).1.place ≠ .betweenRecords) ∨
    (scan.place ≠ .betweenRecords ∧ isBreak b = true ∧
      (scan.step delimiter b).2 = some scan.record ∧
      (scan.step delimiter b).1.place = .betweenRecords) := by
  obtain ⟨place, field, fields, start, line, byte⟩ := scan
  cases place <;> grind [step, Place.move]

/-- The reader is between records only after a break. -/
theorem isBreak_of_after {scan : Scan} {front : Bytes} {b : UInt8}
    (h : (scan.after delimiter (front ++ [b])).place = .betweenRecords) : isBreak b = true := by
  rw [after_append] at h
  change ((scan.after delimiter front).step delimiter b).1.place = _ at h
  rcases place_step_cases delimiter (scan.after delimiter front) b with
    ⟨_, hbreak, _⟩ | ⟨_, _, hopen⟩ | ⟨_, hbreak, _⟩
  · exact hbreak
  · exact absurd h hopen
  · exact hbreak

/-- No record ends within breaks that are passed over. -/
theorem after_gap (delimiter : UInt8) {gap : Bytes} : ∀ {scan : Scan}, scan.place = .betweenRecords →
    (∀ b ∈ gap, isBreak b = true) →
      (scan.after delimiter gap).place = .betweenRecords ∧ scan.ended delimiter gap = [] := by
  induction gap with
  | nil => exact fun hplace _ => ⟨hplace, rfl⟩
  | cons b gap ih =>
    intro scan hplace hgap
    obtain ⟨hb, hgap⟩ := List.forall_mem_cons.mp hgap
    rcases place_step_cases delimiter scan b with
      ⟨_, _, hnone, hnext⟩ | ⟨hopens, _⟩ | ⟨hopen, _⟩
    · rw [ended, hnone, Option.toList_none, List.nil_append]
      exact ih hnext hgap
    · rw [hopens hplace] at hb
      cases hb
    · exact absurd hplace hopen

/-- The first record that is found is the one that the reader is looking for. -/
theorem start_of_head? {rest : Bytes} : ∀ {scan : Scan} {record : Record},
    (scan.records delimiter rest).head? = some record → record.start = scan.start := by
  induction rest with
  | nil =>
    intro scan record h
    rw [records] at h
    split at h
    · cases h
    · obtain rfl := Option.some.inj h
      rfl
  | cons b rest ih =>
    intro scan record h
    rw [records_cons] at h
    rcases step_cases delimiter scan b with ⟨hnone, hstart⟩ | ⟨hsome, _⟩
    · rw [hnone] at h
      exact (ih h).trans hstart
    · rw [hsome] at h
      obtain rfl := Option.some.inj h
      rfl

/-- If a record is found, the breaks before it are passed over, and another byte opens it. -/
theorem exists_gap {rest : Bytes} {record : Record} : ∀ {scan : Scan},
    scan.place = .betweenRecords → (scan.records delimiter rest).head? = some record →
      ∃ gap b tail, rest = gap ++ b :: tail ∧ (∀ c ∈ gap, isBreak c = true) ∧
        isBreak b = false := by
  induction rest with
  | nil =>
    intro scan hplace h
    rw [records, if_pos hplace] at h
    cases h
  | cons b rest ih =>
    intro scan hplace h
    rcases place_step_cases delimiter scan b with
      ⟨_, hbreak, hnone, hnext⟩ | ⟨hopens, _⟩ | ⟨hopen, _⟩
    · rw [records_cons, hnone] at h
      obtain ⟨gap, c, tail, rfl, hgap, hc⟩ := ih hnext h
      exact ⟨b :: gap, c, tail, rfl, List.forall_mem_cons.mpr ⟨hbreak, hgap⟩, hc⟩
    · exact ⟨[], b, rest, rfl, by simp, hopens hplace⟩
    · exact absurd hplace hopen

/-- The bytes up to a record: with the last byte of `search` the record before it ends, and the breaks
of `gap` are passed over. -/
structure Search (delimiter : UInt8) (scan : Scan) (rest search gap : Bytes) (count : Nat) :
    Prop where
  opens : ∃ b tail, rest = search ++ gap ++ b :: tail ∧ isBreak b = false
  breaks : ∀ b ∈ gap, isBreak b = true
  length_ended : (scan.ended delimiter search).length = count
  closed : (scan.after delimiter search).place = .betweenRecords
  open_before : (scan.after delimiter search.dropLast).place ≠ .betweenRecords

theorem Search.ne_nil {scan : Scan} {rest search gap : Bytes} {n : Nat}
    (h : scan.Search delimiter rest search gap (n + 1)) : search ≠ [] := by
  rintro rfl
  cases h.length_ended

/-- The bytes up to a record with a byte before them, and the record that it ends. -/
theorem Search.cons {scan : Scan} {b : UInt8} {rest search gap : Bytes} {n : Nat}
    (h : (scan.step delimiter b).1.Search delimiter rest search gap (n + 1)) :
    scan.Search delimiter (b :: rest) (b :: search) gap
      ((scan.step delimiter b).2.toList.length + n + 1) := by
  obtain ⟨c, tail, rfl, hc⟩ := h.opens
  refine ⟨⟨c, tail, rfl, hc⟩, h.breaks, ?_, h.closed, ?_⟩
  · rw [ended, List.length_append, h.length_ended, Nat.add_assoc]
  · rw [List.dropLast_cons_of_ne_nil h.ne_nil]
    exact h.open_before

/-- A record that is not the first one is looked for after the byte that ends the one before it. -/
theorem exists_search {rest : Bytes} : ∀ {scan : Scan} {n : Nat} {record : Record},
    (scan.records delimiter rest)[n + 1]? = some record → ∃ search gap,
      scan.Search delimiter rest search gap (n + 1) ∧
        record.start.line = scan.line + search.count lineFeed := by
  induction rest with
  | nil =>
    intro scan n record h
    rw [records] at h
    split at h <;> simp at h
  | cons b rest ih =>
    intro scan n record h
    have hline := line_step delimiter scan b
    have hcount : ∀ search, scan.line + (b :: search).count lineFeed =
        (scan.step delimiter b).1.line + search.count lineFeed := by
      intro search
      rw [hline, ← List.singleton_append, List.count_append, Nat.add_assoc]
    rw [records_cons] at h
    rcases step_cases delimiter scan b with ⟨hnone, _⟩ | ⟨hsome, _, _, hnext⟩
    · rw [hnone] at h
      obtain ⟨search, gap, hsearch, hstart⟩ := ih h
      have hcons := hsearch.cons
      rw [hnone, Option.toList_none, List.length_nil, Nat.zero_add] at hcons
      exact ⟨b :: search, gap, hcons, hstart.trans (hcount search).symm⟩
    · rw [hsome, Option.toList_some, List.singleton_append, List.getElem?_cons_succ] at h
      cases n with
      | succ n =>
        obtain ⟨search, gap, hsearch, hstart⟩ := ih h
        have hcons := hsearch.cons
        rw [hsome, Option.toList_some, List.length_singleton, Nat.add_comm 1] at hcons
        exact ⟨b :: search, gap, hcons, hstart.trans (hcount search).symm⟩
      | zero =>
        -- The byte ends the record that is open, and the record is the next one.
        rcases place_step_cases delimiter scan b with
          ⟨_, _, hnone, _⟩ | ⟨_, hnone, _⟩ | ⟨hopen, _, _, hclosed⟩
        · rw [hsome] at hnone
          cases hnone
        · rw [hsome] at hnone
          cases hnone
        rw [← List.head?_eq_getElem?] at h
        obtain ⟨gap, c, tail, rfl, hgap, hc⟩ := exists_gap hclosed h
        refine ⟨[b], gap, ⟨⟨c, tail, rfl, hc⟩, hgap, ?_, hclosed, hopen⟩, ?_⟩
        · rw [ended, hsome]
          rfl
        · rw [start_of_head? h, hnext, hline]

/-- A record that is open is found. -/
theorem records_ne_nil (rest : Bytes) : ∀ {scan : Scan}, scan.place ≠ .betweenRecords →
    scan.records delimiter rest ≠ [] := by
  induction rest with
  | nil =>
    intro scan hplace
    rw [records, if_neg hplace]
    exact List.cons_ne_nil _ _
  | cons b rest ih =>
    intro scan hplace
    rw [records_cons]
    rcases place_step_cases delimiter scan b with ⟨hclosed, _⟩ | ⟨_, _, hopen⟩ | ⟨_, _, hsome, _⟩
    · exact absurd hclosed hplace
    · exact List.append_ne_nil_of_right_ne_nil _ (ih hopen)
    · simp [hsome]

/-- A byte that is no break opens a record. -/
theorem records_cons_ne_nil {scan : Scan} (hplace : scan.place = .betweenRecords) {b : UInt8}
    (hb : isBreak b = false) (rest : Bytes) : scan.records delimiter (b :: rest) ≠ [] := by
  rw [records_cons]
  rcases place_step_cases delimiter scan b with ⟨_, hbreak, _⟩ | ⟨_, _, hopen⟩ | ⟨hopen, _⟩
  · rw [hb] at hbreak
    cases hbreak
  · exact List.append_ne_nil_of_right_ne_nil _ (records_ne_nil rest hopen)
  · exact absurd hplace hopen

/-- A plain byte that comes next goes into the record that is open. -/
theorem not_prefix_of_isPlain {scan : Scan} {front : Bytes} {b : UInt8}
    (hb : isPlain delimiter b = true)
    (hplace : (scan.after delimiter front).place ≠ .betweenRecords) :
    ¬scan.records delimiter front <+: scan.records delimiter (front ++ [b]) := by
  have hkeep := move_of_isPlain hb (scan.after delimiter front).place
  have hnext := ne_of_move_keep hkeep
  rw [records_eq, if_neg hplace, records_append, List.prefix_append_right_inj, records_cons, step,
    hkeep, Option.toList_none, List.nil_append, records, if_neg hnext]
  intro h
  -- The field that is open has one byte more.
  have hrecord := List.head_eq_of_cons_eq (h.eq_of_length rfl)
  have hfields := congrArg Record.fields hrecord
  simp [record] at hfields

end Scan

/-! ### Whole texts -/

/-- What stands at the start of a text: the byte order mark, or nothing if the text has none. -/
def Headed (head body : Bytes) : Prop := head = mark ∨ head = [] ∧ ¬ mark <+: body

theorem exists_headed (bytes : Bytes) : ∃ head body, bytes = head ++ body ∧ Headed head body := by
  by_cases h : mark <+: bytes
  · obtain ⟨body, rfl⟩ := h
    exact ⟨mark, body, rfl, .inl rfl⟩
  · exact ⟨[], bytes, rfl, .inr ⟨rfl, h⟩⟩

theorem byte_lt_of_isBreak {b : UInt8} (h : isBreak b = true) : b.toNat < 0x80 := by
  rcases eq_of_isBreak h with rfl | rfl <;> decide

section Texts

variable {delimiter : UInt8} {head front rest bytes : Bytes}

theorem Headed.records_eq (h : Headed head front) (delimiter : UInt8) :
    records delimiter (head ++ front) = (Scan.atStart head.length).records delimiter front := by
  rcases h with rfl | ⟨rfl, hmark⟩
  · exact records_mark delimiter front
  · exact records_of_not_mark delimiter hmark

theorem Headed.of_append (h : Headed head (front ++ rest)) : Headed head front :=
  h.imp_right fun ⟨hnil, hmark⟩ =>
    ⟨hnil, fun hhead => hmark (hhead.trans (List.prefix_append ..))⟩

theorem Headed.count_lineFeed (h : Headed head front) : head.count lineFeed = 0 := by
  rcases h with rfl | ⟨rfl, _⟩ <;> rfl

/-- A byte of ASCII is no part of the mark. -/
theorem Headed.append {b : UInt8} (h : Headed head front) (hb : b.toNat < 0x80) (rest : Bytes) :
    Headed head (front ++ b :: rest) :=
  h.imp_right fun ⟨hnil, hmark⟩ =>
    ⟨hnil, fun hhead => hmark ((mark_prefix_append_iff hb front rest).mp hhead)⟩

/-- Where the reader is between records, what comes next is no part of the mark. -/
theorem Headed.append_of_place (h : Headed head front) (hne : front ≠ [])
    (hplace : ((Scan.atStart head.length).after delimiter front).place = .betweenRecords)
    (rest : Bytes) : Headed head (front ++ rest) := by
  obtain ⟨ahead, b, rfl⟩ := (List.eq_nil_or_concat' front).resolve_left hne
  have hrest := h.of_append.append (byte_lt_of_isBreak (Scan.isBreak_of_after hplace)) rest
  rwa [List.append_cons] at hrest

/-- No continuation changes the records of the bytes. -/
def Closed (delimiter : UInt8) (front : Bytes) : Prop :=
  ∀ rest, records delimiter front <+: records delimiter (front ++ rest)

/-- Bytes are closed exactly if the reader is between records after them. -/
theorem closed_iff (h : Headed head front) : Closed delimiter (head ++ front) ↔
    ((Scan.atStart head.length).after delimiter front).place = .betweenRecords := by
  constructor
  · intro hclosed
    by_contra hplace
    -- One of two plain bytes of ASCII is not the delimiter.
    obtain ⟨b, hplain, hb⟩ : ∃ b, isPlain delimiter b = true ∧ b.toNat < 0x80 := by
      by_cases hzero : delimiter = 0
      · exact ⟨1, isPlain_iff.mpr (by rw [hzero]; decide), by decide⟩
      · exact ⟨0, isPlain_iff.mpr ⟨Ne.symm hzero, by decide, by decide⟩, by decide⟩
    have hkept := hclosed [b]
    rw [List.append_assoc, h.records_eq, (h.append hb []).records_eq] at hkept
    exact Scan.not_prefix_of_isPlain hplain hplace hkept
  · intro hplace rest
    by_cases hne : front = []
    · rw [h.records_eq, hne]
      exact List.nil_prefix
    · rw [List.append_assoc, h.records_eq, (h.append_of_place hne hplace rest).records_eq,
        Scan.records_eq, if_pos hplace, List.append_nil, Scan.records_append]
      exact List.prefix_append ..

/-! ### Places of records -/

/-- Record `n` starts at an offset, the first record being record zero: the bytes before it are closed
and hold `n` records, and the byte there is no break. -/
structure StartsAt (delimiter : UInt8) (bytes : Bytes) (n offset : Nat) : Prop where
  closed : Closed delimiter (bytes.take offset)
  length_records : (records delimiter (bytes.take offset)).length = n
  opens : ∃ b, bytes[offset]? = some b ∧ isBreak b = false

/-- What is before a record, other than the first one. -/
theorem StartsAt.exists_front {n offset : Nat} (h : StartsAt delimiter bytes (n + 1) offset) :
    ∃ head front, bytes.take offset = head ++ front ∧ (∀ rest, Headed head (front ++ rest)) ∧
      ((Scan.atStart head.length).after delimiter front).place = .betweenRecords ∧
      ((Scan.atStart head.length).ended delimiter front).length = n + 1 := by
  obtain ⟨head, front, htake, hhead⟩ := exists_headed (bytes.take offset)
  have hplace := (closed_iff hhead).mp (htake ▸ h.closed)
  have hcount := h.length_records
  rw [htake, hhead.records_eq, Scan.records_eq, if_pos hplace, List.append_nil] at hcount
  have hne : front ≠ [] := by
    rintro rfl
    cases hcount
  exact ⟨head, front, htake, hhead.append_of_place hne hplace, hplace, hcount⟩

/-- A break is right before a record other than the first one. -/
theorem StartsAt.isBreak_of_getLast? {n offset : Nat}
    (h : StartsAt delimiter bytes (n + 1) offset) {b : UInt8}
    (hb : (bytes.take offset).getLast? = some b) : isBreak b = true := by
  obtain ⟨head, front, htake, _, hplace, hended⟩ := h.exists_front
  rcases List.eq_nil_or_concat' front with rfl | ⟨ahead, c, rfl⟩
  · cases hended
  · rw [htake, ← List.append_assoc, List.getLast?_concat] at hb
    obtain rfl := Option.some.inj hb
    exact Scan.isBreak_of_after hplace

theorem exists_take_eq {b : UInt8} {i j : Nat} (hb : bytes[i]? = some b) (hij : i < j) :
    ∃ more, bytes.take j = bytes.take i ++ b :: more := by
  obtain ⟨k, rfl⟩ := Nat.exists_eq_add_of_lt hij
  obtain ⟨hlt, rfl⟩ := List.getElem?_eq_some_iff.mp hb
  refine ⟨(bytes.drop (i + 1)).take k, ?_⟩
  rw [Nat.add_assoc, List.take_add, ← List.getElem_cons_drop hlt, List.take_succ_cons]

/-- A later place is that of a later record. -/
theorem StartsAt.lt {n m i j : Nat} (h : StartsAt delimiter bytes (n + 1) i)
    (h' : StartsAt delimiter bytes m j) (hij : i < j) : n + 1 < m := by
  obtain ⟨head, front, htake, hheaded, hplace, hended⟩ := h.exists_front
  obtain ⟨b, hget, hb⟩ := h.opens
  obtain ⟨more, hmore⟩ := exists_take_eq hget hij
  -- The record that starts at the earlier place is among those before the later one.
  have hcount := h'.length_records
  rw [hmore, htake, List.append_assoc, (hheaded _).records_eq, Scan.records_append,
    List.length_append, hended] at hcount
  have hpos : 0 < (Scan.records delimiter _ (b :: more)).length :=
    List.length_pos_of_ne_nil (Scan.records_cons_ne_nil hplace hb more)
  omega

/-- A record starts at one place only. -/
theorem startsAt_unique {n i j : Nat} (h : StartsAt delimiter bytes (n + 1) i)
    (h' : StartsAt delimiter bytes (n + 1) j) : i = j := by
  rcases Nat.lt_trichotomy i j with hlt | heq | hlt
  · exact absurd (h.lt h' hlt) (Nat.lt_irrefl _)
  · exact heq
  · exact absurd (h'.lt h hlt) (Nat.lt_irrefl _)

/-- A record starts at a place. It is looked for after the break that ends the record before it, and
the breaks up to it are passed over. -/
theorem exists_startsAt {n : Nat} {record : Record}
    (h : (records delimiter bytes)[n + 1]? = some record) : ∃ passed gap,
      passed ++ gap <+: bytes ∧ StartsAt delimiter bytes (n + 1) (passed ++ gap).length ∧
      (∀ b ∈ gap, isBreak b = true) ∧ record.start.line = passed.count lineFeed + 1 ∧
      (Closed delimiter (passed ++ gap).dropLast ↔ gap ≠ []) := by
  obtain ⟨head, body, rfl, hhead⟩ := exists_headed bytes
  rw [hhead.records_eq] at h
  obtain ⟨search, gap, hsearch, hline⟩ := Scan.exists_search h
  obtain ⟨b, tail, rfl, hb⟩ := hsearch.opens
  obtain ⟨hplace, hnone⟩ := Scan.after_gap delimiter hsearch.closed hsearch.breaks
  rw [← Scan.after_append] at hplace
  have hfront : Headed head (search ++ gap) := hhead.of_append
  have hclosed : Closed delimiter (head ++ search ++ gap) := by
    rw [List.append_assoc, closed_iff hfront]
    exact hplace
  have htake : (head ++ (search ++ gap ++ b :: tail)).take (head ++ search ++ gap).length =
      head ++ search ++ gap := by
    rw [← List.append_assoc, ← List.append_assoc, List.take_left]
  refine ⟨head ++ search, gap, ?_, ⟨?_, ?_, b, ?_, hb⟩, hsearch.breaks, ?_, ?_⟩
  · exact ⟨b :: tail, by simp⟩
  · rw [htake]
    exact hclosed
  · rw [htake, List.append_assoc, hfront.records_eq, Scan.records_eq, if_pos hplace,
      List.append_nil, Scan.ended_append, hnone, List.append_nil, hsearch.length_ended]
  · simp
  · rw [hline, List.count_append, hhead.count_lineFeed, Nat.zero_add]
    exact Nat.add_comm ..
  · rcases List.eq_nil_or_concat' gap with rfl | ⟨gap, c, rfl⟩
    · -- The last byte passed ends a record, which is open before it.
      have hlast := List.dropLast_append_getLast hsearch.ne_nil
      rw [List.append_nil, ← hlast] at hfront
      rw [List.append_nil, List.dropLast_append_of_ne_nil hsearch.ne_nil,
        closed_iff hfront.of_append]
      exact iff_of_false hsearch.open_before (not_not_intro rfl)
    · rw [← List.append_assoc] at hfront
      have hgap := Scan.after_gap delimiter hsearch.closed fun d hd =>
        hsearch.breaks d (List.mem_append_left _ hd)
      rw [← Scan.after_append] at hgap
      rw [← List.append_assoc, List.dropLast_concat, List.append_assoc,
        closed_iff hfront.of_append]
      exact iff_of_true hgap.1 (by simp)

end Texts

end PageMerge.Csv
