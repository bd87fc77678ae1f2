import Mathlib.Tactic.IntervalCases
import PageMerge.Text.Utf8

/-!
# Reading back what was encoded

A character is read exactly from the bytes that it is written as, so that decoding takes back
encoding: the bytes of a text are decoded to the text, and bytes that are decoded are the bytes of
the text that they give.

Lead bytes are numbered by the bits of the code point that they hold, and tail bytes by theirs.

## Main definitions

* `bytesOf`: the bytes of the character of a code point

## Main results

* `encode_of_readChar`, `readChar_of_encode`: a character and its bytes
* `decode_encode`, `encode_of_decode`: a text and its bytes
* `eq_of_ascii_mem`: a byte of ASCII is a character of its own
-/

namespace PageMerge.Text.Utf8

/-! ### Bytes as numbers -/

theorem toNat_ofNat_of_lt {n : Nat} (h : n < 256) : (UInt8.ofNat n).toNat = n := by
  rw [UInt8.toNat_ofNat']
  exact Nat.mod_eq_of_lt h

/-- The promise of a lead byte of a character of two bytes. -/
theorem lead?_two {k : Nat} (hlow : 2 ≤ k) (hhigh : k < 32) :
    lead? (UInt8.ofNat (k + 0xC0)) = some ⟨1, 0x80, 0xBF, k⟩ := by
  interval_cases k <;> rfl

/-- The promise of a lead byte of a character of three bytes. -/
theorem lead?_three {k : Nat} (h : k < 16) :
    lead? (UInt8.ofNat (k + 0xE0)) =
      some ⟨2, if k = 0 then 0xA0 else 0x80, if k = 13 then 0x9F else 0xBF, k⟩ := by
  interval_cases k <;> rfl

/-- The promise of a lead byte of a character of four bytes. -/
theorem lead?_four {k : Nat} (h : k < 5) :
    lead? (UInt8.ofNat (k + 0xF0)) =
      some ⟨3, if k = 0 then 0x90 else 0x80, if k = 4 then 0x8F else 0xBF, k⟩ := by
  interval_cases k <;> rfl

/-- There are no other lead bytes. -/
theorem lead?_cases {a : UInt8} {lead : Lead} (h : lead? a = some lead) :
    (∃ k, 2 ≤ k ∧ k < 32 ∧ a = UInt8.ofNat (k + 0xC0)) ∨
    (∃ k, k < 16 ∧ a = UInt8.ofNat (k + 0xE0)) ∨
    (∃ k, k < 5 ∧ a = UInt8.ofNat (k + 0xF0)) := by
  -- The lead bytes of the three lengths follow each other without a gap.
  have hbound : 0xC2 ≤ a.toNat ∧ a.toNat < 0xF5 := by
    rw [lead?] at h
    simp only [UInt8.lt_iff_toNat_lt, ← UInt8.toNat_inj, UInt8.reduceToNat] at h
    split at h
    · cases h
    · split_ifs at h <;> omega
  have hback : ∀ n, n = a.toNat → a = UInt8.ofNat n := by
    rintro n rfl
    simp
  rcases Nat.lt_or_ge a.toNat 0xE0 with htwo | htwo
  · exact .inl ⟨a.toNat - 0xC0, by omega, by omega, hback _ (by omega)⟩
  · rcases Nat.lt_or_ge a.toNat 0xF0 with hthree | hthree
    · exact .inr (.inl ⟨a.toNat - 0xE0, by omega, hback _ (by omega)⟩)
    · exact .inr (.inr ⟨a.toNat - 0xF0, by omega, hback _ (by omega)⟩)

/-! ### Tail bytes -/

/-- Each tail byte adds six bits. -/
theorem readTails_succ_iff {n bits point : Nat} {low high : UInt8} {bs after : Bytes}
    (hlow : 0x80 ≤ low.toNat) (hhigh : high.toNat ≤ 0xBF) :
    readTails (n + 1) low high bits bs = (some point, after) ↔
      ∃ t rest, bs = UInt8.ofNat (t + 0x80) :: rest ∧ t < 64 ∧ low.toNat ≤ t + 0x80 ∧
        t + 0x80 ≤ high.toNat ∧
          readTails n 0x80 0xBF (bits * 64 + t) rest = (some point, after) := by
  constructor
  · intro h
    cases bs with
    | nil => cases h
    | cons b rest =>
      rw [readTails] at h
      split at h
      · rename_i hb
        simp only [UInt8.le_iff_toNat_le] at hb
        have hback : UInt8.ofNat (b.toNat - 0x80 + 0x80) = b := by
          rw [Nat.sub_add_cancel (Nat.le_trans hlow hb.1)]
          simp
        exact ⟨b.toNat - 0x80, rest, by rw [hback], by omega, by omega, by omega, h⟩
      · cases h
  · rintro ⟨t, rest, rfl, ht, hl, hh, h⟩
    have hnat : (UInt8.ofNat (t + 0x80)).toNat = t + 0x80 := toNat_ofNat_of_lt (by omega)
    rw [readTails, if_pos, hnat, Nat.add_sub_cancel]
    · exact h
    · rw [UInt8.le_iff_toNat_le, UInt8.le_iff_toNat_le, hnat]
      exact ⟨hl, hh⟩

/-- A tail byte without closer bounds. -/
theorem readTails_tail_iff {n bits point : Nat} {bs after : Bytes} :
    readTails (n + 1) 0x80 0xBF bits bs = (some point, after) ↔
      ∃ t rest, bs = UInt8.ofNat (t + 0x80) :: rest ∧ t < 64 ∧
        readTails n 0x80 0xBF (bits * 64 + t) rest = (some point, after) := by
  rw [readTails_succ_iff (by decide) (by decide)]
  constructor
  · rintro ⟨t, rest, hbs, ht, _, _, h⟩
    exact ⟨t, rest, hbs, ht, h⟩
  · rintro ⟨t, rest, hbs, ht, h⟩
    exact ⟨t, rest, hbs, ht, Nat.le_add_left .., Nat.add_le_add_right (Nat.le_of_lt_succ ht) _, h⟩

theorem readTails_zero_iff {bits point : Nat} {low high : UInt8} {bs after : Bytes} :
    readTails 0 low high bits bs = (some point, after) ↔ bits = point ∧ bs = after := by
  rw [readTails, Prod.mk.injEq, Option.some.injEq]

/-- The code points whose characters are the bytes with the given bits. -/
theorem readChar_lead_iff {a : UInt8} {lead : Lead} (hlead : lead? a = some lead)
    (ha : 0x80 ≤ a.toNat) {rest after : Bytes} {c : Char} :
    readChar a rest = (some c, after) ↔
      ∃ point, readTails lead.tails lead.low lead.high lead.bits rest = (some point, after) ∧
        Char.ofNat point = c := by
  have hnot : ¬ a < 0x80 := by
    rw [UInt8.lt_iff_toNat_lt]
    exact Nat.not_lt.mpr ha
  rw [readChar, if_neg hnot, hlead]
  dsimp only
  generalize readTails lead.tails lead.low lead.high lead.bits rest = read
  obtain ⟨point, left⟩ := read
  simp only [Prod.mk.injEq, Option.map_eq_some_iff]
  constructor
  · rintro ⟨⟨p, rfl, hp⟩, rfl⟩
    exact ⟨p, ⟨rfl, rfl⟩, hp⟩
  · rintro ⟨p, ⟨rfl, rfl⟩, hp⟩
    exact ⟨⟨p, rfl, hp⟩, rfl⟩

/-! ### Characters of one, two, three and four bytes -/

/-- The bytes of the character of a code point. -/
def bytesOf (n : Nat) : Bytes :=
  if n ≤ 0x7F then [UInt8.ofNat n]
  else if n ≤ 0x7FF then [UInt8.ofNat (n / 64 + 0xC0), UInt8.ofNat (n % 64 + 0x80)]
  else if n ≤ 0xFFFF then
    [UInt8.ofNat (n / 4096 + 0xE0), UInt8.ofNat (n / 64 % 64 + 0x80), UInt8.ofNat (n % 64 + 0x80)]
  else
    [UInt8.ofNat (n / 262144 + 0xF0), UInt8.ofNat (n / 4096 % 64 + 0x80),
      UInt8.ofNat (n / 64 % 64 + 0x80), UInt8.ofNat (n % 64 + 0x80)]

theorem utf8EncodeChar_ofNat {n : Nat} (h : n.isValidChar) :
    String.utf8EncodeChar (Char.ofNat n) = bytesOf n := by
  have hnat : (Char.ofNat n).val.toNat = n := by
    rw [Char.ofNat, dif_pos h]
    rfl
  have hbound : n < 0x110000 := by
    rcases h with h | h
    · omega
    · exact h.2
  rw [String.utf8EncodeChar, hnat, bytesOf]
  split
  · rfl
  split
  · rw [Nat.mod_eq_of_lt (by omega : n / 64 < 0x20)]
  split
  · rw [Nat.mod_eq_of_lt (by omega : n / 4096 < 0x10)]
  · rw [Nat.mod_eq_of_lt (by omega : n / 262144 < 0x08)]

/-- A character of two bytes is read exactly from these. -/
theorem readChar_two_iff {k : Nat} (hlow : 2 ≤ k) (hhigh : k < 32) {rest after : Bytes} {c : Char} :
    readChar (UInt8.ofNat (k + 0xC0)) rest = (some c, after) ↔
      ∃ t < 64, rest = UInt8.ofNat (t + 0x80) :: after ∧ Char.ofNat (k * 64 + t) = c := by
  have hnat : (UInt8.ofNat (k + 0xC0)).toNat = k + 0xC0 := toNat_ofNat_of_lt (by omega)
  rw [readChar_lead_iff (lead?_two hlow hhigh) (by omega)]
  dsimp only
  constructor
  · rintro ⟨point, h, rfl⟩
    obtain ⟨t, _, rfl, ht, h⟩ := readTails_tail_iff.mp h
    obtain ⟨rfl, rfl⟩ := readTails_zero_iff.mp h
    exact ⟨t, ht, rfl, rfl⟩
  · rintro ⟨t, ht, rfl, rfl⟩
    exact ⟨_, readTails_tail_iff.mpr ⟨t, after, rfl, ht, readTails_zero_iff.mpr ⟨rfl, rfl⟩⟩, rfl⟩

/-- A character of three bytes is read exactly from these. -/
theorem readChar_three_iff {k : Nat} (hk : k < 16) {rest after : Bytes} {c : Char} :
    readChar (UInt8.ofNat (k + 0xE0)) rest = (some c, after) ↔
      ∃ t u, t < 64 ∧ u < 64 ∧ (k = 0 → 32 ≤ t) ∧ (k = 13 → t < 32) ∧
        rest = UInt8.ofNat (t + 0x80) :: UInt8.ofNat (u + 0x80) :: after ∧
          Char.ofNat ((k * 64 + t) * 64 + u) = c := by
  have hnat : (UInt8.ofNat (k + 0xE0)).toNat = k + 0xE0 := toNat_ofNat_of_lt (by omega)
  -- The first tail byte is bounded more closely: no shorter character, and no surrogate.
  have hlow : (if k = 0 then (0xA0 : UInt8) else 0x80).toNat = if k = 0 then 0xA0 else 0x80 := by
    split <;> rfl
  have hhigh : (if k = 13 then (0x9F : UInt8) else 0xBF).toNat =
      if k = 13 then 0x9F else 0xBF := by
    split <;> rfl
  rw [readChar_lead_iff (lead?_three hk) (by omega)]
  dsimp only
  constructor
  · rintro ⟨point, h, rfl⟩
    rw [readTails_succ_iff (by split <;> decide) (by split <;> decide), hlow, hhigh] at h
    obtain ⟨t, _, rfl, ht, hl, hh, h⟩ := h
    obtain ⟨u, _, rfl, hu, h⟩ := readTails_tail_iff.mp h
    obtain ⟨rfl, rfl⟩ := readTails_zero_iff.mp h
    refine ⟨t, u, ht, hu, fun h0 => ?_, fun h13 => ?_, rfl, rfl⟩
    · rw [if_pos h0] at hl
      omega
    · rw [if_pos h13] at hh
      omega
  · rintro ⟨t, u, ht, hu, h0, h13, rfl, rfl⟩
    refine ⟨_, (readTails_succ_iff (by split <;> decide) (by split <;> decide)).mpr
      ⟨t, _, rfl, ht, ?_, ?_, readTails_tail_iff.mpr
        ⟨u, after, rfl, hu, readTails_zero_iff.mpr ⟨rfl, rfl⟩⟩⟩, rfl⟩
    · rw [hlow]
      split <;> omega
    · rw [hhigh]
      split <;> omega

/-- A character of four bytes is read exactly from these. -/
theorem readChar_four_iff {k : Nat} (hk : k < 5) {rest after : Bytes} {c : Char} :
    readChar (UInt8.ofNat (k + 0xF0)) rest = (some c, after) ↔
      ∃ t u v, t < 64 ∧ u < 64 ∧ v < 64 ∧ (k = 0 → 16 ≤ t) ∧ (k = 4 → t < 16) ∧
        rest = UInt8.ofNat (t + 0x80) :: UInt8.ofNat (u + 0x80) :: UInt8.ofNat (v + 0x80) ::
          after ∧ Char.ofNat (((k * 64 + t) * 64 + u) * 64 + v) = c := by
  have hnat : (UInt8.ofNat (k + 0xF0)).toNat = k + 0xF0 := toNat_ofNat_of_lt (by omega)
  -- The first tail byte is bounded more closely: no shorter character, and no point too large.
  have hlow : (if k = 0 then (0x90 : UInt8) else 0x80).toNat = if k = 0 then 0x90 else 0x80 := by
    split <;> rfl
  have hhigh : (if k = 4 then (0x8F : UInt8) else 0xBF).toNat =
      if k = 4 then 0x8F else 0xBF := by
    split <;> rfl
  rw [readChar_lead_iff (lead?_four hk) (by omega)]
  dsimp only
  constructor
  · rintro ⟨point, h, rfl⟩
    rw [readTails_succ_iff (by split <;> decide) (by split <;> decide), hlow, hhigh] at h
    obtain ⟨t, _, rfl, ht, hl, hh, h⟩ := h
    obtain ⟨u, _, rfl, hu, h⟩ := readTails_tail_iff.mp h
    obtain ⟨v, _, rfl, hv, h⟩ := readTails_tail_iff.mp h
    obtain ⟨rfl, rfl⟩ := readTails_zero_iff.mp h
    refine ⟨t, u, v, ht, hu, hv, fun h0 => ?_, fun h4 => ?_, rfl, rfl⟩
    · rw [if_pos h0] at hl
      omega
    · rw [if_pos h4] at hh
      omega
  · rintro ⟨t, u, v, ht, hu, hv, h0, h4, rfl, rfl⟩
    refine ⟨_, (readTails_succ_iff (by split <;> decide) (by split <;> decide)).mpr
      ⟨t, _, rfl, ht, ?_, ?_, readTails_tail_iff.mpr ⟨u, _, rfl, hu, readTails_tail_iff.mpr
        ⟨v, after, rfl, hv, readTails_zero_iff.mpr ⟨rfl, rfl⟩⟩⟩⟩, rfl⟩
    · rw [hlow]
      split <;> omega
    · rw [hhigh]
      split <;> omega

/-! ### All characters -/

/-- What is read are the bytes of the character. -/
theorem encode_of_readChar {a : UInt8} {rest after : Bytes} {c : Char}
    (h : readChar a rest = (some c, after)) : a :: rest = String.utf8EncodeChar c ++ after := by
  rcases Nat.lt_or_ge a.toNat 0x80 with hone | hmany
  · have hlt : a < 0x80 := UInt8.lt_iff_toNat_lt.mpr hone
    rw [readChar, if_pos hlt] at h
    obtain ⟨hc, rfl⟩ := Prod.mk.inj h
    rw [← Option.some.inj hc, utf8EncodeChar_ofNat (Or.inl (by omega)), bytesOf, if_pos (by omega)]
    simp
  · cases hlead : lead? a with
    | none =>
      have hnot : ¬ a < 0x80 := by
        rw [UInt8.lt_iff_toNat_lt]
        exact Nat.not_lt.mpr hmany
      rw [readChar, if_neg hnot, hlead] at h
      cases h
    | some lead =>
      rcases lead?_cases hlead with ⟨k, hk, hk', rfl⟩ | ⟨k, hk, rfl⟩ | ⟨k, hk, rfl⟩
      · obtain ⟨t, ht, rfl, rfl⟩ := (readChar_two_iff hk hk').mp h
        rw [utf8EncodeChar_ofNat (Or.inl (by omega)), bytesOf, if_neg (by omega), if_pos (by omega),
          show (k * 64 + t) / 64 = k by omega, show (k * 64 + t) % 64 = t by omega]
        rfl
      · obtain ⟨t, u, ht, hu, h0, h13, rfl, rfl⟩ := (readChar_three_iff hk).mp h
        have hvalid : ((k * 64 + t) * 64 + u).isValidChar := by
          rw [Nat.isValidChar]
          omega
        rw [utf8EncodeChar_ofNat hvalid, bytesOf, if_neg (by omega), if_neg (by omega),
          if_pos (by omega), show ((k * 64 + t) * 64 + u) / 4096 = k by omega,
          show ((k * 64 + t) * 64 + u) / 64 % 64 = t by omega,
          show ((k * 64 + t) * 64 + u) % 64 = u by omega]
        rfl
      · obtain ⟨t, u, v, ht, hu, hv, h0, h4, rfl, rfl⟩ := (readChar_four_iff hk).mp h
        have hvalid : (((k * 64 + t) * 64 + u) * 64 + v).isValidChar := by
          rw [Nat.isValidChar]
          omega
        rw [utf8EncodeChar_ofNat hvalid, bytesOf, if_neg (by omega), if_neg (by omega),
          if_neg (by omega), show (((k * 64 + t) * 64 + u) * 64 + v) / 262144 = k by omega,
          show (((k * 64 + t) * 64 + u) * 64 + v) / 4096 % 64 = t by omega,
          show (((k * 64 + t) * 64 + u) * 64 + v) / 64 % 64 = u by omega,
          show (((k * 64 + t) * 64 + u) * 64 + v) % 64 = v by omega]
        rfl

/-- A character is read from its bytes. -/
theorem readChar_of_encode {a : UInt8} {rest after : Bytes} {c : Char}
    (h : a :: rest = String.utf8EncodeChar c ++ after) : readChar a rest = (some c, after) := by
  have hvalid : c.toNat.isValidChar := c.valid
  have hsurrogate : c.toNat < 0xD800 ∨ 0xDFFF < c.toNat ∧ c.toNat < 0x110000 := c.valid
  have hback : Char.ofNat c.toNat = c := Char.ofNat_toNat c
  rw [← hback, utf8EncodeChar_ofNat hvalid, bytesOf] at h
  split at h
  · rename_i hone
    obtain ⟨rfl, rfl⟩ := List.cons.inj h
    have hnat := toNat_ofNat_of_lt (n := c.toNat) (by omega)
    have hlt : UInt8.ofNat c.toNat < 0x80 := by
      rw [UInt8.lt_iff_toNat_lt, hnat]
      exact Nat.lt_succ_of_le hone
    rw [readChar, if_pos hlt, hnat, hback]
  split at h
  · obtain ⟨rfl, rfl⟩ := List.cons.inj h
    refine (readChar_two_iff (by omega) (by omega)).mpr ⟨c.toNat % 64, by omega, rfl, ?_⟩
    rw [Nat.div_add_mod', hback]
  split at h
  · obtain ⟨rfl, rfl⟩ := List.cons.inj h
    refine (readChar_three_iff (by omega)).mpr ⟨c.toNat / 64 % 64, c.toNat % 64, by omega, by omega,
      by omega, by omega, rfl, ?_⟩
    rw [show (c.toNat / 4096 * 64 + c.toNat / 64 % 64) * 64 + c.toNat % 64 = c.toNat by omega,
      hback]
  · obtain ⟨rfl, rfl⟩ := List.cons.inj h
    refine (readChar_four_iff (by omega)).mpr ⟨c.toNat / 4096 % 64, c.toNat / 64 % 64,
      c.toNat % 64, by omega, by omega, by omega, by omega, by omega, rfl, ?_⟩
    rw [show ((c.toNat / 262144 * 64 + c.toNat / 4096 % 64) * 64 + c.toNat / 64 % 64) * 64 +
      c.toNat % 64 = c.toNat by omega, hback]

/-- A byte of ASCII is a character of its own. -/
theorem eq_of_ascii_mem {b : UInt8} {c : Char} (hb : b.toNat < 0x80)
    (h : b ∈ String.utf8EncodeChar c) :
    c = Char.ofNat b.toNat ∧ String.utf8EncodeChar c = [b] := by
  have hvalid : c.toNat.isValidChar := c.valid
  have hback : Char.ofNat c.toNat = c := Char.ofNat_toNat c
  have hbound : c.toNat < 0x110000 := by
    rcases hvalid with hlow | hhigh
    · omega
    · exact hhigh.2
  rw [← hback, utf8EncodeChar_ofNat hvalid] at h ⊢
  -- All bytes of a longer character have their highest bit set.
  have hhigh : ∀ k, 0x80 ≤ k → k < 256 → b ≠ UInt8.ofNat k := by
    rintro k hk hk' rfl
    rw [toNat_ofNat_of_lt hk'] at hb
    omega
  rw [bytesOf] at h ⊢
  split at h
  · rename_i hone
    rw [if_pos hone]
    rw [List.mem_singleton] at h
    subst h
    rw [toNat_ofNat_of_lt (by omega)]
    exact ⟨rfl, rfl⟩
  · exfalso
    revert h
    split
    · simp only [List.mem_cons, List.not_mem_nil, or_false, imp_false, not_or]
      exact ⟨hhigh _ (by omega) (by omega), hhigh _ (by omega) (by omega)⟩
    split
    · simp only [List.mem_cons, List.not_mem_nil, or_false, imp_false, not_or]
      exact ⟨hhigh _ (by omega) (by omega), hhigh _ (by omega) (by omega),
        hhigh _ (by omega) (by omega)⟩
    · simp only [List.mem_cons, List.not_mem_nil, or_false, imp_false, not_or]
      exact ⟨hhigh _ (by omega) (by omega), hhigh _ (by omega) (by omega),
        hhigh _ (by omega) (by omega), hhigh _ (by omega) (by omega)⟩

/-- A byte that is a character on its own is one of ASCII. -/
theorem ascii_of_singleton {b : UInt8} {c : Char} (h : String.utf8EncodeChar c = [b]) :
    b.toNat < 0x80 ∧ c = Char.ofNat b.toNat := by
  have hvalid : c.toNat.isValidChar := c.valid
  have hbytes := h
  rw [← Char.ofNat_toNat c, utf8EncodeChar_ofNat hvalid, bytesOf] at hbytes
  have hascii : b.toNat < 0x80 := by
    split at hbytes
    · rename_i hsmall
      rw [← List.singleton_inj.mp hbytes, toNat_ofNat_of_lt (by omega)]
      omega
    split at hbytes
    · cases hbytes
    split at hbytes
    · cases hbytes
    · cases hbytes
  have hmem : b ∈ String.utf8EncodeChar c := by
    rw [h]
    exact List.mem_singleton_self b
  exact ⟨hascii, (eq_of_ascii_mem hascii hmem).1⟩

/-! ### Texts -/

/-- Every character has a byte. -/
theorem utf8EncodeChar_ne_nil (c : Char) : String.utf8EncodeChar c ≠ [] := by
  intro h
  have hlength := String.length_utf8EncodeChar c
  rw [h] at hlength
  exact c.utf8Size_pos.ne hlength

/-- Decoding goes on after a character that was read. -/
theorem decodeFrom_cons {a : UInt8} {rest after : Bytes} {c : Char}
    (h : readChar a rest = (some c, after)) (offset : Nat) :
    decodeFrom offset (a :: rest) =
      (decodeFrom (offset + (rest.length + 1 - after.length)) after).map (c :: ·) := by
  rw [decodeFrom]
  split
  · rename_i heq
    rw [h] at heq
    cases heq
  · rename_i heq
    rw [h] at heq
    cases heq
    rfl

/-- What is decoded are the bytes of the characters. -/
theorem flatMap_of_decodeFrom (offset : Nat) (bs : Bytes) : ∀ chars : List Char,
    decodeFrom offset bs = .ok chars → bs = chars.flatMap String.utf8EncodeChar := by
  induction offset, bs using decodeFrom.induct with
  | case1 offset =>
    intro chars h
    rw [decodeFrom] at h
    cases h
    rfl
  | case2 offset a rest after hread =>
    intro chars h
    rw [decodeFrom] at h
    split at h
    · cases h
    · rename_i heq
      rw [hread] at heq
      cases heq
  | case3 offset a rest c after hread _ ih =>
    intro chars h
    rw [decodeFrom_cons hread] at h
    cases hafter : decodeFrom (offset + (rest.length + 1 - after.length)) after with
    | error e =>
      rw [hafter] at h
      cases h
    | ok others =>
      rw [hafter] at h
      obtain rfl := Except.ok.inj h
      rw [List.flatMap_cons, ← ih others hafter]
      exact encode_of_readChar hread

/-- The bytes of characters are decoded. -/
theorem decodeFrom_flatMap (chars : List Char) : ∀ offset,
    decodeFrom offset (chars.flatMap String.utf8EncodeChar) = .ok chars := by
  induction chars with
  | nil =>
    intro offset
    rw [List.flatMap_nil, decodeFrom]
  | cons c chars ih =>
    intro offset
    obtain ⟨a, rest, hbytes⟩ := List.exists_cons_of_ne_nil (utf8EncodeChar_ne_nil c)
    rw [List.flatMap_cons, hbytes, List.cons_append]
    have hread : readChar a (rest ++ chars.flatMap String.utf8EncodeChar) =
        (some c, chars.flatMap String.utf8EncodeChar) :=
      readChar_of_encode (by rw [hbytes, List.cons_append])
    rw [decodeFrom_cons hread, ih]
    rfl

/-- Decoding the bytes of a text gives the text. -/
theorem decode_encode (s : String) : decode (encode s) = .ok s := by
  rw [decode, encode, decodeFrom_flatMap]
  exact congrArg Except.ok (String.ofList_toList)

theorem encode_injective : Function.Injective encode := by
  intro s t h
  have hdecoded := congrArg decode h
  rw [decode_encode, decode_encode] at hdecoded
  exact Except.ok.inj hdecoded

/-- Bytes that are decoded are the bytes of the text. -/
theorem encode_of_decode {bs : Bytes} {s : String} (h : decode bs = .ok s) : encode s = bs := by
  rw [decode] at h
  cases hchars : decodeFrom 0 bs with
  | error offset =>
    rw [hchars] at h
    cases h
  | ok chars =>
    rw [hchars] at h
    rw [← Except.ok.inj h, encode, String.toList_ofList]
    exact (flatMap_of_decodeFrom 0 bs chars hchars).symm

end PageMerge.Text.Utf8
