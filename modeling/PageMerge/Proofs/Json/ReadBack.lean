import Mathlib.Data.List.DropRight
import PageMerge.Proofs.Failure
import PageMerge.Proofs.Json.Text

/-!
# Values in JSON

A value that is written with one item or member to a line is read back, whatever stands behind it:
blanks between its parts are skipped, and every part is read up to the one that follows it. A number
is the only part that does not show where it ends, so what follows it must not go on with it.

## Main definitions

* `numeral`: the bytes of a natural number
* `EndsNumber`: bytes that do not go on with a number
* `Value.Fits`: a value with integers of 64 bits and a bound on how deep it is nested

## Main results

* `readNumber_numeral`: a natural number of 64 bits is read back
* `readItems_pretty`, `readMembers_pretty`: items and members are read back if their values are
* `readValue_pretty`, `read_pretty`: values are read back
-/

namespace PageMerge.Json

open PageMerge.Text (Bytes)
open Value (newLine)

/-- The bytes of characters. -/
def bytesOf (cs : List Char) : Bytes := cs.flatMap String.utf8EncodeChar

theorem bytesOf_append (cs ds : List Char) : bytesOf (cs ++ ds) = bytesOf cs ++ bytesOf ds :=
  List.flatMap_append

theorem bytesOf_cons (c : Char) (cs : List Char) :
    bytesOf (c :: cs) = String.utf8EncodeChar c ++ bytesOf cs := List.flatMap_cons

/-! ### Numbers -/

/-- The byte of a digit. -/
def digitByte (d : Nat) : UInt8 := UInt8.ofNat (0x30 + d)

/-- The bytes of a natural number in decimal digits. -/
def numeral (n : Nat) : Bytes := bytesOf (Nat.toDigits 10 n)

theorem bytesOf_digitChar {d : Nat} (h : d < 10) : bytesOf [Nat.digitChar d] = [digitByte d] := by
  interval_cases d <;> rfl

theorem numeral_of_lt {n : Nat} (h : n < 10) : numeral n = [digitByte n] := by
  rw [numeral, Nat.toDigits_of_lt_base h, bytesOf_digitChar h]

theorem numeral_of_le {n : Nat} (h : 10 ≤ n) :
    numeral n = numeral (n / 10) ++ [digitByte (n % 10)] := by
  rw [numeral, Nat.toDigits_of_base_le (by decide) h, bytesOf_append,
    bytesOf_digitChar (Nat.mod_lt n (by decide)), numeral]

/-- Numerals by their last digit. -/
theorem numeral_induction {motive : Nat → Prop} (digit : ∀ n < 10, motive n)
    (more : ∀ n, 10 ≤ n → motive (n / 10) → motive n) (n : Nat) : motive n := by
  induction n using Nat.strongRecOn with
  | ind n ih =>
    rcases Nat.lt_or_ge n 10 with hsmall | hlarge
    · exact digit n hsmall
    · exact more n hlarge (ih (n / 10) (by omega))

theorem toNat_digitByte {d : Nat} (h : d < 10) : (digitByte d).toNat = 0x30 + d :=
  Text.Utf8.toNat_ofNat_of_lt (by omega)

theorem isDigit_digitByte {d : Nat} (h : d < 10) : isDigit (digitByte d) = true := by
  rw [isDigit, Bool.and_eq_true, decide_eq_true_iff, decide_eq_true_iff, UInt8.le_iff_toNat_le,
    UInt8.le_iff_toNat_le, toNat_digitByte h]
  exact ⟨Nat.le_add_right _ _, Nat.add_le_add_left (Nat.le_of_lt_succ h) _⟩

theorem isDigit_of_mem_numeral {n : Nat} : ∀ b ∈ numeral n, isDigit b = true := by
  induction n using numeral_induction with
  | digit n hn =>
    rw [numeral_of_lt hn]
    simpa using isDigit_digitByte hn
  | more n hn ih =>
    rw [numeral_of_le hn]
    intro b hb
    rcases List.mem_append.mp hb with hb | hb
    · exact ih b hb
    · rw [List.mem_singleton.mp hb]
      exact isDigit_digitByte (Nat.mod_lt n (by decide))

/-- The digits of a number of 64 bits all fit. -/
theorem add_numeral {n : Nat} : n < UInt64.size → Digits.add ⟨0, 0⟩ (numeral n) = ⟨n, 0⟩ := by
  induction n using numeral_induction with
  | digit n hn =>
    intro hsize
    rw [numeral_of_lt hn, Digits.add, List.foldl_cons, List.foldl_nil, toNat_digitByte hn]
    simp [hsize]
  | more n hn ih =>
    intro hsize
    -- The digits but the last make `n / 10`, which fits because `n` does.
    have hlast : n / 10 * 10 + (0x30 + n % 10 - 0x30) = n := by omega
    have hfirst := ih (Nat.lt_of_le_of_lt (Nat.div_le_self n 10) hsize)
    rw [Digits.add] at hfirst ⊢
    rw [numeral_of_le hn, List.foldl_append, hfirst, List.foldl_cons, List.foldl_nil,
      toNat_digitByte (Nat.mod_lt n (by decide))]
    dsimp only
    rw [hlast, if_pos ⟨rfl, hsize⟩]

/-- A numeral begins with a digit, and only the one of zero with the digit zero. -/
theorem exists_numeral_eq_cons (n : Nat) :
    ∃ d < 10, ∃ digits, numeral n = digitByte d :: digits ∧ (0 < n → 0 < d) := by
  induction n using numeral_induction with
  | digit n hn => exact ⟨n, hn, [], numeral_of_lt hn, id⟩
  | more n hn ih =>
    obtain ⟨d, hd, digits, heq, hpos⟩ := ih
    refine ⟨d, hd, digits ++ [digitByte (n % 10)], ?_, fun _ => hpos (Nat.div_pos hn (by decide))⟩
    rw [numeral_of_le hn, heq, List.cons_append]

/-- No digit, point or exponent comes next, so that a number ends here. -/
def EndsNumber (rest : Bytes) : Prop :=
  ∀ b ∈ rest.head?, isDigit b = false ∧ b ≠ 0x2E ∧ b ≠ 0x65 ∧ b ≠ 0x45

theorem takeWhile_digits {digits rest : Bytes} (hdigits : ∀ b ∈ digits, isDigit b = true)
    (hrest : EndsNumber rest) : (digits ++ rest).takeWhile isDigit = digits := by
  rw [List.takeWhile_append_of_pos hdigits]
  cases rest with
  | nil => exact List.append_nil digits
  | cons b rest =>
    rw [List.takeWhile_cons_of_neg (by simp [(hrest b rfl).1]), List.append_nil]

theorem dropWhile_digits {digits rest : Bytes} (hdigits : ∀ b ∈ digits, isDigit b = true)
    (hrest : EndsNumber rest) : (digits ++ rest).dropWhile isDigit = rest := by
  rw [List.dropWhile_append_of_pos hdigits]
  cases rest with
  | nil => rfl
  | cons b rest => rw [List.dropWhile_cons_of_neg (by simp [(hrest b rfl).1])]

/-- All digits of a number are taken, and no more. -/
theorem readNumber_digits (negative : Bool) (n : Nat) {rest : Bytes} (hrest : EndsNumber rest) :
    readNumber negative (numeral n ++ rest) = readNumberFrom negative (numeral n) rest := by
  -- A zero that comes first is the whole number, so the reader looks for no digits after it.
  rcases Nat.eq_zero_or_pos n with rfl | hpos
  · cases rest with
    | nil => rfl
    | cons b rest =>
      change (if isDigit b then _ else _) = _
      rw [(hrest b rfl).1]
      rfl
  · obtain ⟨d, hd, digits, heq, hne⟩ := exists_numeral_eq_cons n
    have hdigit := isDigit_of_mem_numeral (n := n)
    rw [heq, List.forall_mem_cons] at hdigit
    rw [heq, List.cons_append, readNumber, if_pos hdigit.1, takeWhile_digits hdigit.2 hrest,
      dropWhile_digits hdigit.2 hrest]
    intro hzero
    have hnat := toNat_digitByte hd
    rw [hzero] at hnat
    exact Nat.ne_of_gt (hne hpos) (Nat.add_left_cancel hnat).symm

/-- A natural number of 64 bits is read back. -/
theorem readNumber_numeral {n : Nat} (h : n < UInt64.size) {rest : Bytes}
    (hrest : EndsNumber rest) :
    readNumber false (numeral n ++ rest) = .ok (.integer n, rest) := by
  have hnext : ∀ b tail, rest = b :: tail → b ≠ 0x2E ∧ b ≠ 0x65 ∧ b ≠ 0x45 := by
    rintro b tail rfl
    exact (hrest b rfl).2
  rw [readNumber_digits false n hrest, readNumberFrom, add_numeral h]
  · rw [if_pos ⟨rfl, .inl rfl⟩]
    rfl
  · exact fun tail hrest => (hnext _ tail hrest).1 rfl
  · exact fun tail hrest => (hnext _ tail hrest).2.1 rfl
  · exact fun tail hrest => (hnext _ tail hrest).2.2 rfl

/-! ### Blanks -/

theorem skipSpace_newLine (depth : Nat) (bs : Bytes) :
    skipSpace (bytesOf (newLine depth) ++ bs) = skipSpace bs := by
  rw [skipSpace, List.dropWhile_append_of_pos]
  · rfl
  · intro b hb
    obtain ⟨c, hc, hb⟩ := List.mem_flatMap.mp hb
    rcases List.mem_cons.mp hc with rfl | hc
    · rw [List.mem_singleton.mp hb]
      rfl
    · obtain rfl := (List.mem_replicate.mp hc).2
      rw [List.mem_singleton.mp hb]
      rfl

/-- Blanks before a value do not count. -/
theorem readValue_skipSpace (depth : Nat) (bs : Bytes) :
    readValue depth (skipSpace bs) = readValue depth bs := by
  have htwice : skipSpace (skipSpace bs) = skipSpace bs := List.dropWhile_idempotent ..
  rw [readValue, readValue, htwice]

theorem readValue_newLine (depth indent : Nat) (bs : Bytes) :
    readValue depth (bytesOf (newLine indent) ++ bs) = readValue depth bs := by
  rw [← readValue_skipSpace, skipSpace_newLine, readValue_skipSpace]

/-- A digit begins a number. -/
theorem readValue_digit (depth : Nat) {d : Nat} (h : d < 10) (rest : Bytes) :
    readValue depth (digitByte d :: rest) =
      (readNumber false (digitByte d :: rest)).map fun (n, rest) => (.number n, rest) := by
  interval_cases d <;> cases depth <;> rfl

theorem readValue_bracket (depth : Nat) (rest : Bytes) :
    readValue (depth + 1) (0x5B :: rest) =
      (readItems (readValue depth) (rest.length + 1) true rest).map fun (items, rest) =>
        (.array items, rest) := rfl

theorem readValue_brace (depth : Nat) (rest : Bytes) :
    readValue (depth + 1) (0x7B :: rest) =
      (readMembers (readValue depth) (rest.length + 1) true rest).map fun (members, rest) =>
        (.object members, rest) := rfl

theorem readValue_nil (depth : Nat) : readValue depth [] = stopNext .endInValue [] := by
  cases depth <;> rfl

theorem readValue_closing (depth : Nat) (rest : Bytes) :
    readValue depth (0x5D :: rest) = stopNext .expectedValue (0x5D :: rest) := by
  cases depth <;> rfl

theorem readValue_quote (depth : Nat) (rest : Bytes) :
    readValue depth (0x22 :: rest) = (readText rest).map fun (s, rest) => (.text s, rest) := by
  cases depth <;> rfl

/-- A value begins with something, and not with the end of an array. -/
theorem exists_of_readValue {depth : Nat} {bs : Bytes} {read : Value × Bytes}
    (h : readValue depth bs = .ok read) :
    ∃ b rest, skipSpace bs = b :: rest ∧ b ≠ 0x5D ∧ readValue depth (b :: rest) = .ok read := by
  rw [← readValue_skipSpace] at h
  cases hskip : skipSpace bs with
  | nil =>
    rw [hskip, readValue_nil] at h
    cases h
  | cons b rest =>
    rw [hskip] at h
    refine ⟨b, rest, rfl, ?_, h⟩
    rintro rfl
    rw [readValue_closing] at h
    cases h

/-! ### Containers -/

/-- The value is read back from where it is written, at any indentation. -/
def Value.ReadsBack (depth : Nat) (value : Value) : Prop :=
  ∀ (indent : Nat) (rest : Bytes), EndsNumber rest →
    readValue depth (bytesOf (value.prettyChars indent) ++ rest) = .ok (value, rest)

theorem endsNumber_newLine (indent : Nat) (rest : Bytes) :
    EndsNumber (bytesOf (newLine indent) ++ rest) := by
  rintro b hb
  obtain rfl := Option.some.inj hb
  decide

variable {depth : Nat}

theorem endsNumber_items (indent : Nat) (items : List Value) (rest : Bytes) :
    EndsNumber (bytesOf (Value.prettyItems (indent + 1) items ++ newLine indent) ++ rest) := by
  cases items with
  | nil => exact endsNumber_newLine indent rest
  | cons item items =>
    rintro b hb
    obtain rfl := Option.some.inj hb
    decide

/-- An item is read back after a new line. -/
theorem readItem_pretty {item : Value} (h : item.ReadsBack depth) (indent : Nat) {rest : Bytes}
    (hrest : EndsNumber rest) :
    ∃ b start,
      skipSpace (bytesOf (newLine indent ++ item.prettyChars indent) ++ rest) = b :: start ∧
      b ≠ 0x5D ∧ readValue depth (b :: start) = .ok (item, rest) := by
  apply exists_of_readValue
  rw [bytesOf_append, List.append_assoc, readValue_newLine]
  exact h indent rest hrest

/-- Another item comes after a comma. -/
theorem readItems_comma (item : Reader Value) (bound : Nat) {b : UInt8} {rest start : Bytes}
    (hstart : skipSpace rest = b :: start) (hb : b ≠ 0x5D) :
    readItems item (bound + 1) false (0x2C :: rest) = (do
      let (value, rest) ← item (b :: start)
      let (values, rest) ← readItems item bound false rest
      .ok (value :: values, rest)) := by
  have hcomma : skipSpace (0x2C :: rest) = 0x2C :: rest := rfl
  rw [readItems, hcomma]
  simp only [Bool.false_eq_true, if_false]
  split
  case h_1 heq => cases heq
  case h_2 heq => exact absurd (List.cons.inj heq).1 (by decide)
  case h_3 heq =>
    obtain ⟨rfl, rfl⟩ := List.cons.inj heq
    rw [if_pos rfl, hstart]
    split
    case h_1 heq => cases heq
    case h_2 heq => exact absurd (List.cons.inj heq).1 hb
    case h_3 heq => rfl

/-- The first item comes after the bracket. -/
theorem readItems_first (item : Reader Value) (bound : Nat) {b : UInt8} {rest start : Bytes}
    (hstart : skipSpace rest = b :: start) (hb : b ≠ 0x5D) :
    readItems item (bound + 1) true rest = (do
      let (value, rest) ← item (b :: start)
      let (values, rest) ← readItems item bound false rest
      .ok (value :: values, rest)) := by
  rw [readItems, hstart]
  split
  case h_1 heq => cases heq
  case h_2 heq => exact absurd (List.cons.inj heq).1 hb
  case h_3 heq =>
    obtain ⟨rfl, rfl⟩ := List.cons.inj heq
    rfl

/-- The items after the first one are read back, up to the bracket. -/
theorem readItems_pretty (indent : Nat) (rest : Bytes) {items : List Value}
    (h : ∀ item ∈ items, item.ReadsBack depth) : ∀ bound, items.length < bound →
      readItems (readValue depth) bound false
        (bytesOf (Value.prettyItems (indent + 1) items ++ newLine indent) ++ 0x5D :: rest) =
          .ok (items, rest) := by
  -- Each turn spends one of the bound and one item, so the bound stays above the items left.
  induction items with
  | nil =>
    intro bound hbound
    obtain ⟨bound, rfl⟩ := Nat.exists_eq_succ_of_ne_zero (Nat.ne_of_gt hbound)
    rw [Value.prettyItems, List.nil_append, readItems, skipSpace_newLine]
    rfl
  | cons item items ih =>
    intro bound hbound
    obtain ⟨bound, rfl⟩ := Nat.exists_eq_succ_of_ne_zero (Nat.ne_zero_of_lt hbound)
    rw [List.forall_mem_cons] at h
    obtain ⟨b, start, hstart, hb, hread⟩ := readItem_pretty h.1 (indent + 1)
      (endsNumber_items indent items (0x5D :: rest))
    have hbytes : bytesOf (Value.prettyItems (indent + 1) (item :: items) ++ newLine indent) ++
        0x5D :: rest = 0x2C :: (bytesOf (newLine (indent + 1) ++ item.prettyChars (indent + 1)) ++
          (bytesOf (Value.prettyItems (indent + 1) items ++ newLine indent) ++ 0x5D :: rest)) := by
      simp only [Value.prettyItems, bytesOf_cons, bytesOf_append, List.append_assoc]
      rfl
    rw [hbytes, readItems_comma _ _ hstart hb, hread, ok_bind]
    dsimp only
    rw [ih h.2 bound (Nat.lt_of_succ_lt_succ hbound)]
    rfl

theorem length_le_prettyItems (indent : Nat) (items : List Value) :
    items.length ≤ (bytesOf (Value.prettyItems indent items)).length := by
  induction items with
  | nil => exact Nat.le_refl 0
  | cons item items ih =>
    have hcomma : 0 < ','.utf8Size := ','.utf8Size_pos
    rw [Value.prettyItems, bytesOf_cons, bytesOf_append, List.length_append, List.length_append,
      List.length_cons, String.length_utf8EncodeChar]
    omega

/-- An array is read back if its items are. -/
theorem readsBack_array {items : List Value} (h : ∀ item ∈ items, item.ReadsBack depth) :
    (Value.array items).ReadsBack (depth + 1) := by
  intro indent rest hrest
  cases items with
  | nil => rfl
  | cons item items =>
    rw [List.forall_mem_cons] at h
    obtain ⟨b, start, hstart, hb, hread⟩ := readItem_pretty h.1 (indent + 1)
      (endsNumber_items indent items (0x5D :: rest))
    have hbytes : bytesOf ((Value.array (item :: items)).prettyChars indent) ++ rest =
        0x5B :: (bytesOf (newLine (indent + 1) ++ item.prettyChars (indent + 1)) ++
          (bytesOf (Value.prettyItems (indent + 1) items ++ newLine indent) ++ 0x5D :: rest)) := by
      simp only [Value.prettyChars, bytesOf_cons, bytesOf_append, List.append_assoc]
      rfl
    -- The bound is taken from the bytes that are left, and each item takes at least its comma.
    have hlength := length_le_prettyItems (indent + 1) items
    rw [hbytes, readValue_bracket, readItems_first _ _ hstart hb, hread, ok_bind]
    dsimp only
    rw [readItems_pretty indent rest h.2]
    · rfl
    · simp only [bytesOf_append, List.length_append, List.length_cons]
      omega

/-- A member is read back, after its opening quote. -/
theorem readMember_pretty {value : Value} (h : value.ReadsBack depth) (name : String)
    (indent : Nat) {rest : Bytes} (hrest : EndsNumber rest) :
    readMember (readValue depth) (name.toList.flatMap escapedBytes ++ 0x22 :: 0x3A :: 0x20 ::
      (bytesOf (value.prettyChars indent) ++ rest)) = .ok ((name, value), rest) := by
  have hblank : ∀ bs, readValue depth (0x20 :: bs) = readValue depth bs := by
    intro bs
    rw [← readValue_skipSpace, ← readValue_skipSpace depth bs]
    rfl
  rw [readMember, readText_quoted, ok_bind]
  change (readValue depth (0x20 :: _) >>= _) = _
  rw [hblank, h indent rest hrest]
  rfl

/-- Another member comes after a comma. -/
theorem readMembers_comma (item : Reader Value) (bound : Nat) {rest start : Bytes}
    (hstart : skipSpace rest = 0x22 :: start) :
    readMembers item (bound + 1) false (0x2C :: rest) = (do
      let (member, rest) ← readMember item start
      let (members, rest) ← readMembers item bound false rest
      .ok (member :: members, rest)) := by
  have hcomma : skipSpace (0x2C :: rest) = 0x2C :: rest := rfl
  rw [readMembers, hcomma]
  simp only [Bool.false_eq_true, if_false]
  split
  case h_1 heq => cases heq
  case h_2 heq => exact absurd (List.cons.inj heq).1 (by decide)
  case h_3 heq =>
    obtain ⟨rfl, rfl⟩ := List.cons.inj heq
    rw [if_pos rfl, hstart]
    rfl

/-- The first member comes after the brace. -/
theorem readMembers_first (item : Reader Value) (bound : Nat) {rest start : Bytes}
    (hstart : skipSpace rest = 0x22 :: start) :
    readMembers item (bound + 1) true rest = (do
      let (member, rest) ← readMember item start
      let (members, rest) ← readMembers item bound false rest
      .ok (member :: members, rest)) := by
  rw [readMembers, hstart]
  rfl

/-- What is written of a member after a new line. -/
def memberChars (indent : Nat) (member : String × Value) : List Char :=
  newLine indent ++ quotedText member.1 ++ ':' :: ' ' :: member.2.prettyChars indent

theorem skipSpace_memberChars (indent : Nat) (member : String × Value) (rest : Bytes) :
    skipSpace (bytesOf (memberChars indent member) ++ rest) =
      0x22 :: (member.1.toList.flatMap escapedBytes ++ 0x22 :: 0x3A :: 0x20 ::
        (bytesOf (member.2.prettyChars indent) ++ rest)) := by
  have hquoted := flatMap_quotedText member.1 (':' :: ' ' :: member.2.prettyChars indent)
  rw [memberChars, List.append_assoc, bytesOf_append, List.append_assoc, skipSpace_newLine, bytesOf,
    hquoted, List.cons_append, List.append_assoc, List.cons_append]
  rfl

theorem endsNumber_members (indent : Nat) (members : List (String × Value)) (rest : Bytes) :
    EndsNumber (bytesOf (Value.prettyMembers (indent + 1) members ++ newLine indent) ++ rest) := by
  cases members with
  | nil => exact endsNumber_newLine indent rest
  | cons member members =>
    rintro b hb
    obtain rfl := Option.some.inj hb
    decide

/-- The members after the first one are read back, up to the brace. -/
theorem readMembers_pretty (indent : Nat) (rest : Bytes) {members : List (String × Value)}
    (h : ∀ member ∈ members, member.2.ReadsBack depth) : ∀ bound, members.length < bound →
      readMembers (readValue depth) bound false
        (bytesOf (Value.prettyMembers (indent + 1) members ++ newLine indent) ++ 0x7D :: rest) =
          .ok (members, rest) := by
  induction members with
  | nil =>
    intro bound hbound
    obtain ⟨bound, rfl⟩ := Nat.exists_eq_succ_of_ne_zero (Nat.ne_of_gt hbound)
    rw [Value.prettyMembers, List.nil_append, readMembers, skipSpace_newLine]
    rfl
  | cons member members ih =>
    intro bound hbound
    obtain ⟨bound, rfl⟩ := Nat.exists_eq_succ_of_ne_zero (Nat.ne_zero_of_lt hbound)
    rw [List.forall_mem_cons] at h
    have hbytes :
        bytesOf (Value.prettyMembers (indent + 1) (member :: members) ++ newLine indent) ++
        0x7D :: rest = 0x2C :: (bytesOf (memberChars (indent + 1) member) ++
          (bytesOf (Value.prettyMembers (indent + 1) members ++ newLine indent) ++
            0x7D :: rest)) := by
      simp only [Value.prettyMembers, memberChars, bytesOf_cons, bytesOf_append, List.append_assoc]
      rfl
    rw [hbytes, readMembers_comma _ _ (skipSpace_memberChars ..),
      readMember_pretty h.1 _ _ (endsNumber_members indent members _), ok_bind]
    dsimp only
    rw [ih h.2 bound (Nat.lt_of_succ_lt_succ hbound)]
    rfl

theorem length_le_prettyMembers (indent : Nat) (members : List (String × Value)) :
    members.length ≤ (bytesOf (Value.prettyMembers indent members)).length := by
  induction members with
  | nil => exact Nat.le_refl 0
  | cons member members ih =>
    have hcomma : 0 < ','.utf8Size := ','.utf8Size_pos
    simp only [Value.prettyMembers, bytesOf_cons, bytesOf_append, List.length_append,
      List.length_cons, String.length_utf8EncodeChar]
    omega

/-- An object is read back if the values of its members are. -/
theorem readsBack_object {members : List (String × Value)}
    (h : ∀ member ∈ members, member.2.ReadsBack depth) :
    (Value.object members).ReadsBack (depth + 1) := by
  intro indent rest hrest
  cases members with
  | nil => rfl
  | cons member members =>
    rw [List.forall_mem_cons] at h
    have hbytes : bytesOf ((Value.object (member :: members)).prettyChars indent) ++ rest =
        0x7B :: (bytesOf (memberChars (indent + 1) member) ++
          (bytesOf (Value.prettyMembers (indent + 1) members ++ newLine indent) ++
            0x7D :: rest)) := by
      simp only [Value.prettyChars, memberChars, bytesOf_cons, bytesOf_append, List.append_assoc]
      rfl
    have hlength := length_le_prettyMembers (indent + 1) members
    rw [hbytes, readValue_brace, readMembers_first _ _ (skipSpace_memberChars ..),
      readMember_pretty h.1 _ _ (endsNumber_members indent members _), ok_bind]
    dsimp only
    rw [readMembers_pretty indent rest h.2]
    · rfl
    · simp only [bytesOf_append, List.length_append, List.length_cons]
      omega

/-! ### Values -/

/-- A value with integers of 64 bits only, in which at most `depth` containers stand in each
other. -/
inductive Value.Fits : Nat → Value → Prop
  | null {depth : Nat} : Fits depth .null
  | bool {depth : Nat} (b : Bool) : Fits depth (.bool b)
  | nat {depth n : Nat} (h : n < UInt64.size) : Fits depth (.nat n)
  | text {depth : Nat} (s : String) : Fits depth (.text s)
  | array {depth : Nat} {items : List Value} (h : ∀ item ∈ items, Fits depth item) :
      Fits (depth + 1) (.array items)
  | object {depth : Nat} {members : List (String × Value)}
      (h : ∀ member ∈ members, Fits depth member.2) : Fits (depth + 1) (.object members)

theorem readsBack_null : Value.null.ReadsBack depth := by
  intro indent rest hrest
  cases depth <;> rfl

theorem readsBack_bool (b : Bool) : (Value.bool b).ReadsBack depth := by
  intro indent rest hrest
  cases b <;> cases depth <;> rfl

theorem readsBack_text (s : String) : (Value.text s).ReadsBack depth := by
  intro indent rest hrest
  have hquoted := flatMap_quotedText s []
  rw [List.append_nil] at hquoted
  rw [Value.prettyChars, bytesOf, hquoted, List.cons_append, List.append_assoc, readValue_quote]
  change (readText (_ ++ 0x22 :: rest)).map _ = _
  rw [readText_quoted]
  rfl

theorem readsBack_nat {n : Nat} (h : n < UInt64.size) : (Value.nat n).ReadsBack depth := by
  intro indent rest hrest
  have hchars : bytesOf ((Value.nat n).prettyChars indent) = numeral n := by
    have htext : numberText (.integer n) = n.repr.toList := rfl
    rw [Value.nat, Value.int, Value.prettyChars, htext, Nat.toList_repr, numeral]
  obtain ⟨d, hd, digits, heq, -⟩ := exists_numeral_eq_cons n
  have hread := readNumber_numeral h hrest
  rw [heq, List.cons_append] at hread
  rw [hchars, heq, List.cons_append, readValue_digit depth hd, hread]
  rfl

/-- A value is read back from where it is written. -/
theorem readValue_pretty {value : Value} (h : value.Fits depth) : value.ReadsBack depth := by
  induction h with
  | null => exact readsBack_null
  | bool b => exact readsBack_bool b
  | nat h => exact readsBack_nat h
  | text s => exact readsBack_text s
  | array _ ih => exact readsBack_array ih
  | object _ ih => exact readsBack_object ih

/-- A document is read back. -/
theorem read_pretty {value : Value} (h : value.Fits depthLimit) :
    read (Text.Utf8.encode value.pretty) = .ok value := by
  have hread := readValue_pretty h 0 [] (by simp [EndsNumber])
  have hbytes : Text.Utf8.encode value.pretty = bytesOf (value.prettyChars 0) := by
    rw [Value.pretty, Text.Utf8.encode, String.toList_ofList, bytesOf]
  rw [List.append_nil] at hread
  rw [read, hbytes, hread]
  rfl

end PageMerge.Json
