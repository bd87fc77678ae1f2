import PageMerge.Config.Settings
import PageMerge.Proofs.Failure
import PageMerge.Proofs.Text.Trim

/-!
# Settings that were judged

What holds of the settings of every configuration file that can be used.

## Main results

* `ascii_of_checkDelimiter`: a delimiter is a byte of ASCII that is not blank
* `checkDelimiter_of_validate`: the delimiter of settings was judged
-/

namespace PageMerge.Config

open PageMerge.Files (FileTree)

/-- A text that is needed is trimmed, and something is left of it. -/
theorem requireText_eq_ok_iff (text : String) (error : ConfigProblem) (required : String) :
    requireText text error = .ok required ↔ Text.trim text = required ∧ required ≠ "" := by
  rw [requireText]
  split
  · rename_i hempty
    rw [String.isEmpty_iff] at hempty
    constructor
    · intro h
      cases h
    · rintro ⟨rfl, hne⟩
      exact absurd hempty hne
  · rename_i hne
    rw [String.isEmpty_iff] at hne
    constructor
    · intro h
      obtain rfl := Except.ok.inj h
      exact ⟨rfl, hne⟩
    · rintro ⟨rfl, _⟩
      rfl

/-- The delimiter is a byte of ASCII, and no blank, thus no line break. -/
theorem ascii_of_checkDelimiter {text : String} {delimiter : UInt8}
    (h : checkDelimiter text = .ok delimiter) :
    delimiter.toNat < 0x80 ∧ Text.isBlank (Char.ofNat delimiter.toNat) = false := by
  rw [checkDelimiter] at h
  obtain ⟨trimmed, hrequired, h⟩ := exists_of_bind_eq_ok h
  obtain ⟨rfl, hne⟩ := (requireText_eq_ok_iff ..).mp hrequired
  split at h
  · rename_i byte hbytes
    obtain rfl := Except.ok.inj h
    rw [Text.Utf8.encode] at hbytes
    have hfirst := Text.head?_trimWith Text.isBlank text.toList
    rw [← Text.toList_trim] at hfirst
    -- A single byte is a single character, and the first one of a trimmed text is not blank.
    cases hchars : (Text.trim text).toList with
    | nil => exact absurd (String.toList_eq_nil_iff.mp hchars) hne
    | cons c rest =>
      rw [hchars] at hbytes hfirst
      rw [List.flatMap_cons, List.append_eq_singleton_iff] at hbytes
      rcases hbytes with ⟨hnone, _⟩ | ⟨hone, _⟩
      · exact absurd hnone (Text.Utf8.utf8EncodeChar_ne_nil c)
      · obtain ⟨hascii, rfl⟩ := Text.Utf8.ascii_of_singleton hone
        exact ⟨hascii, hfirst _ rfl⟩
  · cases h

/-- The delimiter is no line break. -/
theorem isBreak_of_checkDelimiter {text : String} {delimiter : UInt8}
    (h : checkDelimiter text = .ok delimiter) : Csv.isBreak delimiter = false := by
  have hblank := (ascii_of_checkDelimiter h).2
  rw [Csv.isBreak, Bool.or_eq_false_iff, beq_eq_false_iff_ne, beq_eq_false_iff_ne]
  constructor
  · rintro rfl
    exact absurd hblank (by decide)
  · rintro rfl
    exact absurd hblank (by decide)

/-- The delimiter of settings was judged. -/
theorem checkDelimiter_of_validate {file : ConfigFile} {tree : FileTree} {account : Account}
    {settings : Settings} (h : file.validate tree account = .ok settings) :
    checkDelimiter file.data.delimiter = .ok settings.delimiter := by
  rw [ConfigFile.validate] at h
  obtain ⟨_, _, h⟩ := exists_of_bind_eq_ok h
  obtain ⟨_, _, h⟩ := exists_of_bind_eq_ok h
  obtain ⟨_, _, h⟩ := exists_of_bind_eq_ok h
  obtain ⟨_, _, h⟩ := exists_of_bind_eq_ok h
  obtain ⟨_, _, h⟩ := exists_of_bind_eq_ok h
  -- The delimiter is the sixth value that is judged.
  obtain ⟨delimiter, hdelimiter, h⟩ := exists_of_bind_eq_ok h
  obtain ⟨_, _, h⟩ := exists_of_bind_eq_ok h
  obtain ⟨_, _, h⟩ := exists_of_bind_eq_ok h
  obtain ⟨_, _, h⟩ := exists_of_bind_eq_ok h
  obtain ⟨_, _, h⟩ := exists_of_bind_eq_ok h
  obtain ⟨_, _, h⟩ := exists_of_bind_eq_ok h
  obtain ⟨_, _, h⟩ := exists_of_bind_eq_ok h
  rw [← Except.ok.inj h]
  exact hdelimiter

end PageMerge.Config
