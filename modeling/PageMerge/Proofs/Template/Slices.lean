import Mathlib.Data.String.Basic
import PageMerge.Template.Scan

/-!
# Slices of the scanned text

A name is a slice of the text between two byte offsets, and so are the parts of the text by which a
stray mark is located. A slice that does not begin and end between characters, or ends before it
begins, is none. The scanner takes each slice as it goes on, and remembers of an open name only the
byte offset of its mark; all its slices exist, and it comes to what the scanner that counts
characters comes to.

## Main definitions

* `slice?`: the part of a text between two byte offsets
* `locate?`: the place of the character at a byte offset
* `SliceScan`, `slicedScan?`: the scanner that slices the text
* `Scan.NameFits`: the open name is what stands after its mark
* `Scan.sliced`: the scanner that slices, where the other one is

## Main results

* `slice?_ofList`: the slice between two parts of a text
* `locate?_ofList`: the place of a character, found by slices
* `SliceScan.step?_sliced`, `Scan.NameFits.step`: a character keeps both scanners together
* `slicedScan?_eq_some`: no slice is missing, and both come to the same
-/

namespace PageMerge.Template

open String (utf8Len)

/-! ### Slices -/

/-- The part of a text between two byte offsets. There is none if an offset is in the middle of a
character or past the end, or if the last one is before the first one. -/
def slice? (text : String) (first last : Nat) : Option String :=
  if String.Pos.Raw.IsValid text ⟨first⟩ ∧ String.Pos.Raw.IsValid text ⟨last⟩ ∧ first ≤ last then
    some (String.Pos.Raw.extract text ⟨first⟩ ⟨last⟩)
  else none

/-- The end of a part of a text is between characters. -/
theorem isValid_ofList (before after : List Char) :
    String.Pos.Raw.IsValid (String.ofList (before ++ after)) ⟨utf8Len before⟩ := by
  rw [String.Pos.Raw.isValid_iff_exists_append]
  exact ⟨String.ofList before, String.ofList after, String.ofList_append,
    (String.rawEndPos_ofList before).symm⟩

theorem slice?_ofList (before part after : List Char) :
    slice? (String.ofList (before ++ part ++ after)) (utf8Len before) (utf8Len (before ++ part)) =
      some (String.ofList part) := by
  have hfirst := isValid_ofList before (part ++ after)
  have hlast := isValid_ofList (before ++ part) after
  rw [← List.append_assoc] at hfirst
  rw [slice?, if_pos ⟨hfirst, hlast, String.utf8Len_le_of_prefix (List.prefix_append ..)⟩,
    String.utf8Len_append, String.extract_of_valid]

/-! ### Locating by slices -/

/-- The byte offset right after the last line break of a text. -/
def lineStart (before : String) : Nat :=
  utf8Len (before.toList.reverse.dropWhile (· ≠ '\n'))

/-- The place of the character at a byte offset, as a message shows it. -/
def locate? (text : String) (offset : Nat) : Option Stray := do
  let before ← slice? text 0 offset
  let line ← slice? text (lineStart before) offset
  let rest ← slice? text offset text.utf8ByteSize
  return {
    line := before.toList.count '\n' + 1
    column := line.toList.length + 1
    context := String.ofList <|
      ((before.toList.reverse.take contextRadius).reverse ++
        rest.toList.take (contextRadius + 1)).map flatten }

/-- The slices by which a character is located exist, and give its place. -/
theorem locate?_ofList (before rest : List Char) :
    locate? (String.ofList (before ++ rest)) (utf8Len before) =
      some (strayAt (before ++ rest) before.length) := by
  have hbefore := slice?_ofList [] before rest
  have hrest := slice?_ofList before rest []
  -- The last line of the part before the character is what its reverse begins with.
  have hline := slice?_ofList (before.reverse.dropWhile (· ≠ '\n')).reverse
    (before.reverse.takeWhile (· ≠ '\n')).reverse rest
  rw [← List.reverse_append, List.takeWhile_append_dropWhile, List.reverse_reverse,
    String.utf8Len_reverse] at hline
  rw [List.nil_append, String.utf8Len_nil] at hbefore
  rw [List.append_nil] at hrest
  simp only [locate?, lineStart, hbefore, hrest, hline, String.utf8ByteSize_ofList,
    String.toList_ofList, Option.bind_eq_bind, Option.bind_some, Option.pure_def, strayAt,
    List.take_left, List.drop_left, List.length_reverse]

/-! ### The scanner that slices -/

/-- What the scanner that slices is in the middle of. -/
inductive SliceMode where
  /-- In literal text. -/
  | inLiteral
  /-- After an escape mark. -/
  | sawEscape
  /-- In a name, after the placeholder mark at a byte offset. -/
  | inName (openedAt : Nat)
  deriving DecidableEq, Repr

/-- The scanner that slices in the middle of a text. -/
structure SliceScan where
  state : SliceMode
  /-- The tokens so far, the last one first. -/
  tokens : Tokens
  /-- The places of the stray marks so far, the last one first. -/
  strays : List Stray
  /-- The number of bytes passed. -/
  offset : Nat
  deriving DecidableEq, Repr

namespace SliceScan

/-- The scanner at the start of a text. -/
def start : SliceScan := ⟨.inLiteral, [], [], 0⟩

/-- The scanner in literal text meets a character. -/
def literalStep (marks : Marks) (scan : SliceScan) (c : Char) : SliceScan :=
  if c = marks.escape then { scan with state := .sawEscape }
  else if c = marks.placeholder then { scan with state := .inName scan.offset }
  else { scan with state := .inLiteral, tokens := Scan.addChar scan.tokens c }

/-- The scanner gives up a name and locates the mark that opened it. -/
def abandon? (marks : Marks) (text : String) (scan : SliceScan) (openedAt : Nat) (name : String) :
    Option SliceScan := do
  let stray ← locate? text openedAt
  return { scan with
    state := .inLiteral
    tokens := Scan.addChars scan.tokens (marks.placeholder :: name.toList)
    strays := stray :: scan.strays }

/-- The scanner meets a character. In a name, it first takes the slice from its mark on. -/
def meet? (marks : Marks) (text : String) (scan : SliceScan) (c : Char) : Option SliceScan :=
  match scan.state with
  | .inLiteral => some (scan.literalStep marks c)
  | .sawEscape =>
    if c = marks.placeholder then
      some { scan with state := .inLiteral, tokens := Scan.addChar scan.tokens c }
    else
      some <| literalStep marks
        { scan with state := .inLiteral, tokens := Scan.addChar scan.tokens marks.escape } c
  | .inName openedAt => do
    let name ← slice? text (openedAt + marks.placeholder.utf8Size) scan.offset
    if c = marks.placeholder ∧ name ≠ "" then
      return { scan with state := .inLiteral, tokens := .placeholder name :: scan.tokens }
    else if isNameChar c then return scan
    else return (← scan.abandon? marks text openedAt name).literalStep marks c

/-- The scanner takes the next character of the text. -/
def step? (marks : Marks) (text : String) (scan : SliceScan) (c : Char) : Option SliceScan := do
  let met ← scan.meet? marks text c
  return { met with offset := scan.offset + c.utf8Size }

/-- The scanner at the end of the text; an open name goes on to the end. -/
def finish? (marks : Marks) (text : String) (scan : SliceScan) : Option SliceScan :=
  match scan.state with
  | .inLiteral => some scan
  | .sawEscape =>
    some { scan with state := .inLiteral, tokens := Scan.addChar scan.tokens marks.escape }
  | .inName openedAt => do
    let name ← slice? text (openedAt + marks.placeholder.utf8Size) text.utf8ByteSize
    scan.abandon? marks text openedAt name

end SliceScan

/-- The tokens of a text, or the places of its stray marks, found by slicing the text. There is none
if a slice is missing. -/
def slicedScan? (marks : Marks) (text : String) : Option (Except StrayMarks Tokens) := do
  let passed ← text.toList.foldlM (SliceScan.step? marks text) SliceScan.start
  let done ← passed.finish? marks text
  match done.strays with
  | [] => return .ok done.tokens.reverse
  | strays => return .error ⟨marks.placeholder, strays.reverse⟩

/-! ### Both scanners together -/

/-- The scanner that slices, where the one that counts characters is. -/
def Scan.sliced (chars : List Char) (scan : Scan) : SliceScan where
  state := match scan.state with
    | .inLiteral => .inLiteral
    | .sawEscape => .sawEscape
    | .inName openedAt _ => .inName (utf8Len (chars.take openedAt))
  tokens := scan.tokens
  strays := scan.strays.map (strayAt chars)
  offset := utf8Len (chars.take scan.offset)

/-- The open name and its mark are what the scanner has passed last. -/
def Scan.NameFits (marks : Marks) (chars : List Char) (scan : Scan) : Prop :=
  ∀ openedAt name, scan.state = .inName openedAt name →
    chars.take scan.offset = chars.take openedAt ++ marks.placeholder :: name.reverse

section Together

variable {marks : Marks} {chars : List Char} {scan : Scan}

/-- The slice from a remembered mark to a later place is what stands between them. -/
theorem slice?_after_mark {openedAt upTo : Nat} {name : List Char}
    (h : chars.take upTo = chars.take openedAt ++ marks.placeholder :: name) :
    slice? (String.ofList chars) (utf8Len (chars.take openedAt) + marks.placeholder.utf8Size)
      (utf8Len (chars.take upTo)) = some (String.ofList name) := by
  have hslice := slice?_ofList (chars.take openedAt ++ [marks.placeholder]) name (chars.drop upTo)
  rw [List.append_assoc (chars.take openedAt), List.singleton_append, ← h,
    List.take_append_drop] at hslice
  simpa using hslice

/-- A remembered mark is located as the scanner that counts characters locates it. -/
theorem locate?_take {openedAt : Nat} (h : openedAt ≤ chars.length) :
    locate? (String.ofList chars) (utf8Len (chars.take openedAt)) =
      some (strayAt chars openedAt) := by
  have hlocate := locate?_ofList (chars.take openedAt) (chars.drop openedAt)
  rwa [List.take_append_drop, List.length_take_of_le h] at hlocate

/-- The mark of the open name is a character of the text. -/
theorem Scan.NameFits.lt_length (h : scan.NameFits marks chars) {openedAt : Nat} {name : List Char}
    (hstate : scan.state = .inName openedAt name) : openedAt < chars.length := by
  by_contra hge
  have hlength := congrArg List.length (h openedAt name hstate)
  rw [List.take_of_length_le (by omega : chars.length ≤ openedAt)] at hlength
  simp only [List.length_append, List.length_cons, List.length_take] at hlength
  omega

theorem SliceScan.literalStep_sliced (marks : Marks) (chars : List Char) (scan : Scan) (c : Char) :
    (scan.sliced chars).literalStep marks c = (scan.literalStep marks c).sliced chars := by
  unfold SliceScan.literalStep Scan.literalStep
  split
  · rfl
  · split <;> rfl

theorem SliceScan.abandon?_sliced (h : scan.NameFits marks chars) {openedAt : Nat}
    {name : List Char} (hstate : scan.state = .inName openedAt name) :
    (scan.sliced chars).abandon? marks (String.ofList chars) (utf8Len (chars.take openedAt))
      (String.ofList name.reverse) = some ((scan.abandon marks openedAt name).sliced chars) := by
  have hlocate := locate?_take (Nat.le_of_lt (h.lt_length hstate))
  simp only [SliceScan.abandon?, hlocate, Option.bind_eq_bind, Option.bind_some, Option.pure_def,
    String.toList_ofList]
  rfl

/-- Both scanners meet a character in the same way. -/
theorem SliceScan.meet?_sliced (h : scan.NameFits marks chars) (c : Char) :
    (scan.sliced chars).meet? marks (String.ofList chars) c =
      some ((scan.meet marks c).sliced chars) := by
  obtain ⟨state, tokens, strays, offset⟩ := scan
  cases state with
  | inLiteral => exact congrArg some (literalStep_sliced marks chars _ c)
  | sawEscape =>
    simp only [SliceScan.meet?, Scan.meet, Scan.sliced]
    split
    · rfl
    · exact congrArg some (literalStep_sliced marks chars ⟨.inLiteral, _, strays, offset⟩ c)
  | inName openedAt name =>
    have hslice := slice?_after_mark (h openedAt name rfl)
    have habandon := abandon?_sliced h rfl
    have hempty : String.ofList name.reverse ≠ "" ↔ name ≠ [] := by simp
    simp only [Scan.sliced] at hslice habandon
    simp only [SliceScan.meet?, Scan.meet, Scan.sliced, hslice, Option.bind_eq_bind,
      Option.bind_some, Option.pure_def, hempty]
    split
    · rfl
    · split
      · rfl
      · rw [habandon, Option.bind_some]
        exact congrArg some (literalStep_sliced marks chars (Scan.abandon ..) c)

/-- A scanner in literal text that a character takes to a name opens it there. -/
theorem Scan.state_literalStep_inName {c : Char} {openedAt : Nat} {name : List Char}
    (h : (scan.literalStep marks c).state = .inName openedAt name) :
    openedAt = scan.offset ∧ name = [] ∧ c = marks.placeholder := by
  unfold Scan.literalStep at h
  split at h
  · cases h
  split at h
  · rename_i hmark
    cases h
    exact ⟨rfl, rfl, hmark⟩
  · cases h

/-- A scanner that a character leaves in a name opens the name there, or was in it before. -/
theorem Scan.state_meet_inName {c : Char} {openedAt : Nat} {name : List Char}
    (h : (scan.meet marks c).state = .inName openedAt name) :
    (openedAt = scan.offset ∧ name = [] ∧ c = marks.placeholder) ∨
      ∃ earlier, scan.state = .inName openedAt earlier ∧ name = c :: earlier := by
  obtain ⟨state, tokens, strays, offset⟩ := scan
  cases state with
  | inLiteral => exact .inl (Scan.state_literalStep_inName h)
  | sawEscape =>
    simp only [Scan.meet] at h
    split at h
    · cases h
    · have hopened := Scan.state_literalStep_inName h
      exact .inl hopened
  | inName opened earlier =>
    simp only [Scan.meet] at h
    split at h
    · cases h
    split at h
    · cases h
      exact .inr ⟨earlier, rfl, rfl⟩
    · have hopened := Scan.state_literalStep_inName h
      exact .inl hopened

/-- A character that the scanner takes keeps the open name fitting. -/
theorem Scan.NameFits.step (h : scan.NameFits marks chars) {c : Char}
    (hc : chars[scan.offset]? = some c) : (scan.step marks c).NameFits marks chars := by
  intro openedAt name hstate
  have htake : chars.take (scan.offset + 1) = chars.take scan.offset ++ [c] := by
    rw [List.take_add_one, hc, Option.toList_some]
  change chars.take (scan.offset + 1) = _
  rcases Scan.state_meet_inName hstate with ⟨rfl, rfl, rfl⟩ | ⟨earlier, hearlier, rfl⟩
  · exact htake
  · rw [htake, h openedAt earlier hearlier]
    simp

/-- Both scanners take a character in the same way. -/
theorem SliceScan.step?_sliced (h : scan.NameFits marks chars) {c : Char}
    (hc : chars[scan.offset]? = some c) :
    (scan.sliced chars).step? marks (String.ofList chars) c =
      some ((scan.step marks c).sliced chars) := by
  have hbytes : utf8Len (chars.take (scan.offset + 1)) =
      utf8Len (chars.take scan.offset) + c.utf8Size := by
    rw [List.take_add_one, hc, Option.toList_some, String.utf8Len_append, String.utf8Len_cons,
      String.utf8Len_nil, Nat.zero_add]
  rw [SliceScan.step?, SliceScan.meet?_sliced h, Option.bind_eq_bind, Option.bind_some,
    Option.pure_def]
  simp only [Scan.step, Scan.sliced, hbytes]

/-- Both scanners take the rest of a text in the same way. -/
theorem SliceScan.foldlM_sliced (rest : List Char) : ∀ {scan : Scan},
    scan.NameFits marks chars → chars.drop scan.offset = rest →
      rest.foldlM (SliceScan.step? marks (String.ofList chars)) (scan.sliced chars) =
          some ((rest.foldl (Scan.step marks) scan).sliced chars) ∧
        (rest.foldl (Scan.step marks) scan).NameFits marks chars ∧
        (rest.foldl (Scan.step marks) scan).offset = scan.offset + rest.length := by
  induction rest with
  | nil => exact fun h _ => ⟨rfl, h, rfl⟩
  | cons c rest ih =>
    intro scan h hrest
    have hc : chars[scan.offset]? = some c := by
      rw [← List.head?_drop, hrest, List.head?_cons]
    have hnext : chars.drop (scan.step marks c).offset = rest := by
      change chars.drop (scan.offset + 1) = rest
      rw [← List.tail_drop, hrest, List.tail_cons]
    obtain ⟨hsliced, hfits, hoffset⟩ := ih (h.step hc) hnext
    rw [List.foldlM_cons, SliceScan.step?_sliced h hc, Option.bind_eq_bind, Option.bind_some]
    refine ⟨hsliced, hfits, hoffset.trans ?_⟩
    change scan.offset + 1 + rest.length = _
    rw [List.length_cons]
    omega

/-- Both scanners end in the same way. -/
theorem SliceScan.finish?_sliced (h : scan.NameFits marks chars)
    (hend : scan.offset = chars.length) :
    (scan.sliced chars).finish? marks (String.ofList chars) =
      some ((scan.finish marks).sliced chars) := by
  obtain ⟨state, tokens, strays, offset⟩ := scan
  obtain rfl : offset = chars.length := hend
  cases state with
  | inLiteral => rfl
  | sawEscape => rfl
  | inName openedAt name =>
    have hslice := slice?_after_mark (h openedAt name rfl)
    have habandon := abandon?_sliced h rfl
    simp only [Scan.sliced, List.take_length] at hslice habandon
    simp only [SliceScan.finish?, Scan.finish, Scan.sliced, String.utf8ByteSize_ofList, hslice,
      List.take_length, Option.bind_eq_bind, Option.bind_some]
    exact habandon

end Together

/-- No slice that the scanner takes is missing, and it comes to what the scanner that counts
characters comes to. -/
theorem slicedScan?_eq_some (marks : Marks) (text : String) :
    slicedScan? marks text = some (scan marks text) := by
  have hstart : Scan.start.NameFits marks text.toList := fun openedAt name h => by cases h
  obtain ⟨hpassed, hfits, hoffset⟩ := SliceScan.foldlM_sliced text.toList hstart rfl
  have hdone := SliceScan.finish?_sliced hfits (hoffset.trans (Nat.zero_add _))
  rw [String.ofList_toList] at hpassed hdone
  change text.toList.foldlM _ SliceScan.start = _ at hpassed
  simp only [slicedScan?, hpassed, hdone, Option.bind_eq_bind, Option.bind_some, Option.pure_def]
  simp only [scan, Scan.run, Scan.sliced]
  cases ((text.toList.foldl (Scan.step marks) Scan.start).finish marks).strays with
  | nil => rfl
  | cons last strays => simp

end PageMerge.Template
