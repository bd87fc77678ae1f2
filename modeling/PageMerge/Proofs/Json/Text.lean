import PageMerge.Json.Printer
import PageMerge.Json.Reader
import PageMerge.Proofs.Text.Utf8

/-!
# Texts in JSON

A text is written between quotes with some of its characters escaped, and reading it takes exactly
what was written of it, whatever stands behind. So different texts are written differently, even if
something follows them.

## Main results

* `readTextFrom_escapedChar`: an escaped character is read as the character that it stands for
* `readText_quoted`: a text is read back, up to its closing quote
* `quotedText_append_inj`: what is written of a text tells which text it is, whatever follows it
* `first_member_of_pretty`: what is written of an object tells its first member, if that is a text
-/

namespace PageMerge.Json

open PageMerge.Text (Bytes)
open PageMerge.Text.Utf8 (encode)

/-! ### Single characters -/

/-- A character that is not escaped. -/
def IsPlain (c : Char) : Prop := c ≠ '"' ∧ c ≠ '\\' ∧ 0x20 ≤ c.toNat

theorem escapedChar_of_isPlain {c : Char} (h : IsPlain c) : escapedChar c = [c] := by
  obtain ⟨hquote, hslash, hlow⟩ := h
  have hne : ∀ d : Char, d.toNat < 0x20 → c ≠ d := by
    rintro d hd rfl
    exact absurd hd (Nat.not_lt.mpr hlow)
  rw [escapedChar.eq_8 c hquote hslash (hne _ (by decide)) (hne _ (by decide)) (hne _ (by decide))
    (hne _ (by decide)) (hne _ (by decide)), if_neg (Nat.not_lt.mpr hlow)]

/-- The first byte of a character that is not escaped has no meaning of its own. -/
theorem ne_of_isPlain {c : Char} (h : IsPlain c) {a : UInt8}
    (ha : a ∈ String.utf8EncodeChar c) : a ≠ 0x22 ∧ a ≠ 0x5C ∧ ¬a < 0x20 := by
  obtain ⟨hquote, hslash, hlow⟩ := h
  by_cases hascii : a.toNat < 0x80
  · obtain ⟨rfl, -⟩ := Text.Utf8.eq_of_ascii_mem hascii ha
    refine ⟨?_, ?_, ?_⟩
    · rintro rfl
      exact hquote rfl
    · rintro rfl
      exact hslash rfl
    · rw [UInt8.lt_iff_toNat_lt]
      have hpoint : (Char.ofNat a.toNat).toNat = a.toNat := by
        rw [Char.ofNat, dif_pos (Or.inl (by omega))]
        rfl
      rw [hpoint] at hlow
      exact Nat.not_lt.mpr hlow
  · refine ⟨?_, ?_, ?_⟩
    · rintro rfl
      exact hascii (by decide)
    · rintro rfl
      exact hascii (by decide)
    · rw [UInt8.lt_iff_toNat_lt]
      exact fun hlt => hascii (Nat.lt_trans hlt (by decide))

/-- A character below the blank, by its code point. -/
theorem exists_of_toNat_lt {c : Char} (h : c.toNat < 0x20) :
    ∃ n < 0x20, c = Char.ofNat n :=
  ⟨c.toNat, h, (Char.ofNat_toNat c).symm⟩

/-- The bytes that are written of a character inside a text. -/
def escapedBytes (c : Char) : Bytes := (escapedChar c).flatMap String.utf8EncodeChar

/-- An escaped character is read as the character that it stands for. -/
theorem readTextFrom_escapedChar (c : Char) (bound : Nat) (taken : List Char) (rest : Bytes) :
    readTextFrom (bound + 1) taken (escapedBytes c ++ rest) =
      readTextFrom bound (c :: taken) rest := by
  by_cases hplain : IsPlain c
  · rw [escapedBytes, escapedChar_of_isPlain hplain, List.flatMap_singleton]
    obtain ⟨a, tail, hbytes⟩ := List.exists_cons_of_ne_nil (Text.Utf8.utf8EncodeChar_ne_nil c)
    obtain ⟨hquote, hslash, hlow⟩ := ne_of_isPlain hplain (a := a) (by simp [hbytes])
    rw [hbytes, List.cons_append, readTextFrom, if_neg hquote, if_neg hslash, if_neg hlow]
    have hread : Text.Utf8.readChar a (tail ++ rest) = (some c, rest) :=
      Text.Utf8.readChar_of_encode (by rw [hbytes, List.cons_append])
    rw [hread]
    rfl
  -- Quote and backslash have escapes of their own, and there are few characters below the blank.
  · by_cases hquote : c = '"'
    · subst hquote
      rfl
    by_cases hslash : c = '\\'
    · subst hslash
      rfl
    have hlow : c.toNat < 0x20 := by
      by_contra hhigh
      exact hplain ⟨hquote, hslash, Nat.not_lt.mp hhigh⟩
    obtain ⟨n, hn, rfl⟩ := exists_of_toNat_lt hlow
    interval_cases n <;> rfl

/-! ### Texts -/

/-- A text is read back, up to its closing quote. -/
theorem readTextFrom_quoted (chars : List Char) : ∀ (bound : Nat) (taken : List Char)
    (rest : Bytes), chars.length < bound →
      readTextFrom bound taken (chars.flatMap escapedBytes ++ 0x22 :: rest) =
        .ok (String.ofList (taken.reverse ++ chars), rest) := by
  induction chars with
  | nil =>
    intro bound taken rest hbound
    obtain ⟨bound, rfl⟩ := Nat.exists_eq_succ_of_ne_zero (Nat.ne_of_gt hbound)
    rw [List.append_nil]
    rfl
  | cons c chars ih =>
    intro bound taken rest hbound
    obtain ⟨bound, rfl⟩ := Nat.exists_eq_succ_of_ne_zero (Nat.ne_zero_of_lt hbound)
    rw [List.flatMap_cons, List.append_assoc, readTextFrom_escapedChar,
      ih bound (c :: taken) rest (Nat.lt_of_succ_lt_succ hbound), List.reverse_cons,
      List.append_assoc, List.singleton_append]

theorem length_le_flatMap_escapedBytes (chars : List Char) :
    chars.length ≤ (chars.flatMap escapedBytes).length := by
  induction chars with
  | nil => exact Nat.le_refl 0
  | cons c chars ih =>
    -- No character is written with no bytes at all.
    have hpos : 0 < (escapedBytes c).length := by
      rw [List.length_pos_iff]
      intro hnil
      have hread := readTextFrom_escapedChar c 0 [] [0x22]
      rw [hnil] at hread
      cases hread
    rw [List.flatMap_cons, List.length_append, List.length_cons]
    omega

/-- A text is read back from what is written after its opening quote, whatever stands behind it. -/
theorem readText_quoted (s : String) (rest : Bytes) :
    readText (s.toList.flatMap escapedBytes ++ 0x22 :: rest) = .ok (s, rest) := by
  have hbound := length_le_flatMap_escapedBytes s.toList
  rw [readText, readTextFrom_quoted s.toList _ [] rest]
  · rw [List.reverse_nil, List.nil_append, String.ofList_toList]
  · rw [List.length_append]
    omega

/-- The bytes of a text between its quotes, and of what stands behind it. -/
theorem flatMap_quotedText (s : String) (rest : List Char) :
    (quotedText s ++ rest).flatMap String.utf8EncodeChar =
      0x22 :: (s.toList.flatMap escapedBytes ++ 0x22 :: rest.flatMap String.utf8EncodeChar) := by
  rw [quotedText, List.cons_append, List.append_assoc, List.flatMap_cons, List.flatMap_append,
    List.flatMap_assoc]
  rfl

/-- What is written of a text tells which text it is, whatever follows it. -/
theorem quotedText_append_inj {s t : String} {rest rest' : List Char}
    (h : quotedText s ++ rest = quotedText t ++ rest') : s = t := by
  have hbytes := congrArg (List.flatMap String.utf8EncodeChar) h
  rw [flatMap_quotedText, flatMap_quotedText] at hbytes
  -- Both texts are read back from the same bytes.
  have hread := congrArg readText (List.cons.inj hbytes).2
  rw [readText_quoted, readText_quoted] at hread
  exact congrArg Prod.fst (Except.ok.inj hread)

/-- What is written of an object whose first member is a text tells the name and the text of that
member. -/
theorem first_member_of_pretty {name name' s s' : String} {members members' : List (String × Value)}
    (h : (Value.object ((name, .text s) :: members)).pretty =
      (Value.object ((name', .text s') :: members')).pretty) : name = name' ∧ s = s' := by
  have hchars := String.ofList_injective h
  simp only [Value.prettyChars, List.append_assoc] at hchars
  -- The names begin alike, and once they are equal so do the texts.
  have hmembers := List.append_cancel_left (List.cons.inj hchars).2
  obtain rfl := quotedText_append_inj hmembers
  have htexts := List.append_cancel_left hmembers
  simp only [List.cons_append] at htexts
  exact ⟨rfl, quotedText_append_inj (List.cons.inj (List.cons.inj htexts).2).2⟩

end PageMerge.Json
