import PageMerge.Text.Alphanumeric
import PageMerge.Text.Blank

/-!
# The marks of a template

Two characters drive the recognition of placeholders: the placeholder mark, which stands on both
sides of a name, and the escape mark, which makes the placeholder mark after it plain text. Neither
can occur in a name, so a name ends where a mark begins.

## Main definitions

* `isNameChar`: a character of a name
* `Marks`: a pair of marks
* `Marks.ofChars`, `Marks.ofTexts`: the marks given as characters or as texts
* `MarksError`: why two characters are no marks

## Main results

* `Marks.placeholder_not_name`, `Marks.escape_not_name`: a mark is no character of a name
-/

namespace PageMerge.Template

/-- The punctuation that a name may have. -/
def isNameSign (c : Char) : Bool := c == '.' || c == '-' || c == '_'

/-- A character of a name: an ASCII letter or digit, a point, a hyphen or an underscore. -/
def isNameChar (c : Char) : Bool := Text.isAsciiAlphanumeric c || isNameSign c

/-- A character that can be a mark: neither a letter or digit of any script, nor a blank, nor the
punctuation of names. -/
def isMark (c : Char) : Bool :=
  !(Text.isAlphanumeric c || Text.isBlank c || isNameSign c)

/-- A placeholder mark and an escape mark. -/
structure Marks where
  placeholder : Char
  escape : Char
  isMark_placeholder : isMark placeholder = true
  isMark_escape : isMark escape = true
  distinct : placeholder ≠ escape
  deriving DecidableEq

/-- Why a pair of characters or texts is no pair of marks. -/
inductive MarksError where
  | placeholderEmpty
  | placeholderNotSingle (text : String)
  | placeholderNotMark (c : Char)
  | escapeEmpty
  | escapeNotSingle (text : String)
  | escapeNotMark (c : Char)
  | equal
  deriving DecidableEq, Repr

/-- A mark is no character of a name. -/
theorem isNameChar_eq_false_of_isMark {c : Char} (h : isMark c = true) : isNameChar c = false := by
  simp only [isMark, Bool.not_eq_true', Bool.or_eq_false_iff] at h
  obtain ⟨⟨halnum, _⟩, hpunct⟩ := h
  simp only [isNameChar, Bool.or_eq_false_iff]
  refine ⟨?_, hpunct⟩
  cases hc : Text.isAsciiAlphanumeric c with
  | false => rfl
  | true => simp [Text.isAlphanumeric_of_isAsciiAlphanumeric hc] at halnum

namespace Marks

theorem placeholder_not_name (marks : Marks) : isNameChar marks.placeholder = false :=
  isNameChar_eq_false_of_isMark marks.isMark_placeholder

theorem escape_not_name (marks : Marks) : isNameChar marks.escape = false :=
  isNameChar_eq_false_of_isMark marks.isMark_escape

/-- The marks that two characters are. -/
def ofChars (placeholder escape : Char) : Except MarksError Marks :=
  if hp : isMark placeholder = true then
    if he : isMark escape = true then
      if hd : placeholder ≠ escape then .ok ⟨placeholder, escape, hp, he, hd⟩
      else .error .equal
    else .error (.escapeNotMark escape)
  else .error (.placeholderNotMark placeholder)

/-- The only character of a trimmed text. -/
def single (text : String) (empty : MarksError) (notSingle : String → MarksError) :
    Except MarksError Char :=
  match (Text.trim text).toList with
  | [] => .error empty
  | [c] => .ok c
  | _ => .error (notSingle (Text.trim text))

/-- The marks that two texts are, blanks around them left out. -/
def ofTexts (placeholder escape : String) : Except MarksError Marks := do
  let placeholder ← single placeholder .placeholderEmpty .placeholderNotSingle
  let escape ← single escape .escapeEmpty .escapeNotSingle
  ofChars placeholder escape

end Marks

end PageMerge.Template
