import Mathlib.Algebra.GroupWithZero.Nat
import Mathlib.Data.List.Forall2
import PageMerge.Proofs.Template.Scan
import PageMerge.Proofs.Template.Slices

/-!
# Where stray marks are

The place of a stray mark is found by counting: the line breaks before it, the characters after the
last of them, and a few characters on each side. It is the place of the mark in the lines of the
text, and the text around it is cut at the same offsets; so a mark that comes later has a later
place.

## Main definitions

* `lastLine`: what a text has after its last line break
* `Stray.Locates`: a place is that of the stray mark at an offset
* `Stray.Before`: an earlier line, or an earlier column of the same line

## Main results

* `exists_splitOn_append`: the lines of a text up to any character
* `before_strayAt`: places are in the order of offsets
* `locates_strayAt`: the place that the scanner gives is that of the mark
* `scan_locates_strays`: the places of the stray marks of a text
-/

namespace PageMerge.Template

/-! ### Lines -/

/-- What a text has after its last line break. -/
def lastLine (before : List Char) : List Char := (before.reverse.takeWhile (· ≠ '\n')).reverse

@[simp] theorem lastLine_break (before : List Char) : lastLine (before ++ ['\n']) = [] := by
  simp [lastLine]

theorem lastLine_append {c : Char} (hc : c ≠ '\n') (before : List Char) :
    lastLine (before ++ [c]) = lastLine before ++ [c] := by
  simp [lastLine, hc]

/-- The lines of a text up to some character: each line break ends one, and what comes next goes on
with the last one. -/
theorem exists_splitOn_append (before : List Char) : ∃ earlier : List (List Char),
    earlier.length = before.count '\n' ∧
      (earlier.map (·.length + 1)).sum + (lastLine before).length = before.length ∧
      ∀ rest : List Char, (before ++ rest).splitOn '\n' =
        earlier ++ (rest.splitOn '\n').modifyHead (lastLine before ++ ·) := by
  -- The next character is the first one of what comes next, so the text before it grows at its end.
  induction before using List.reverseRecOn with
  | nil =>
    refine ⟨[], rfl, rfl, fun rest => ?_⟩
    obtain ⟨line, later, hlines⟩ := List.exists_cons_of_ne_nil (List.splitOn_ne_nil '\n' rest)
    simp [lastLine, hlines]
  | append_singleton before c ih =>
    obtain ⟨earlier, hcount, hlength, hsplit⟩ := ih
    by_cases hc : c = '\n'
    · subst hc
      refine ⟨earlier ++ [lastLine before], by simp [hcount], ?_, fun rest => ?_⟩
      · simp only [List.map_append, List.sum_append, List.map_singleton, List.sum_singleton,
          lastLine_break, List.length_nil, List.length_append, List.length_singleton]
        omega
      obtain ⟨line, later, hlines⟩ := List.exists_cons_of_ne_nil (List.splitOn_ne_nil '\n' rest)
      rw [List.append_assoc, List.singleton_append, hsplit, List.splitOn_cons_eq_if_modifyHead]
      simp [hlines]
    · refine ⟨earlier, by simp [hcount, hc], ?_, fun rest => ?_⟩
      · simp only [lastLine_append hc, List.length_append, List.length_singleton]
        omega
      · obtain ⟨line, later, hlines⟩ := List.exists_cons_of_ne_nil (List.splitOn_ne_nil '\n' rest)
        rw [List.append_assoc, List.singleton_append, hsplit, List.splitOn_cons_eq_if_modifyHead,
          lastLine_append hc]
        simp [hlines, hc]

/-! ### Places -/

/-- The place of the stray mark at an offset of a text. -/
structure Stray.Locates (marks : Marks) (chars : List Char) (offset : Nat) (stray : Stray) :
    Prop where
  /-- The character at the offset is a placeholder mark that is stray. -/
  isStray : (roles marks chars)[offset]? = some .stray
  line_pos : 0 < stray.line
  column_pos : 0 < stray.column
  /-- The mark is the character in that column of that line of the text. -/
  mark_at : ∃ lineChars, (chars.splitOn '\n')[stray.line - 1]? = some lineChars ∧
    lineChars[stray.column - 1]? = some marks.placeholder
  /-- The earlier lines with their breaks, and the earlier columns, are what is before the mark. -/
  offset_eq : (((chars.splitOn '\n').take (stray.line - 1)).map (·.length + 1)).sum +
    (stray.column - 1) = offset
  /-- The text around the mark goes at most fifteen characters to each side. -/
  context_eq : stray.context.toList = ((chars.take (offset + 16)).drop (offset - 15)).map flatten
  /-- The mark stands in the text around it after what is shown before it. -/
  mark_in_context : stray.context.toList[min 15 offset]? = some marks.placeholder

/-- An earlier line, or an earlier column of the same line. -/
def Stray.Before (stray other : Stray) : Prop :=
  stray.line < other.line ∨ stray.line = other.line ∧ stray.column < other.column

theorem Stray.Before.trans {a b c : Stray} (hab : a.Before b) (hbc : b.Before c) : a.Before c := by
  unfold Stray.Before at *
  omega

theorem line_strayAt (chars : List Char) (i : Nat) :
    (strayAt chars i).line = (chars.take i).count '\n' + 1 := rfl

theorem column_strayAt (chars : List Char) (i : Nat) :
    (strayAt chars i).column = (lastLine (chars.take i)).length + 1 := by
  simp [strayAt, lastLine]

/-- The next character is in the next column, or at the start of the next line. -/
theorem before_strayAt_succ {chars : List Char} {i : Nat} (hi : i < chars.length) :
    (strayAt chars i).Before (strayAt chars (i + 1)) := by
  have htake : chars.take (i + 1) = chars.take i ++ [chars[i]] := by
    rw [List.take_append_getElem hi]
  rw [Stray.Before, line_strayAt, line_strayAt, column_strayAt, column_strayAt, htake]
  by_cases hc : chars[i] = '\n'
  · left
    rw [hc, List.count_append, List.count_singleton_self]
    omega
  · right
    rw [lastLine_append hc, List.count_append, List.count_singleton, if_neg (by simpa using hc)]
    simp

/-- A later character is at a later place. -/
theorem before_strayAt {chars : List Char} {i j : Nat} (hij : i < j) (hj : j ≤ chars.length) :
    (strayAt chars i).Before (strayAt chars j) := by
  induction j, hij using Nat.le_induction with
  | base => exact before_strayAt_succ hj
  | succ j _ ih => exact (ih (by omega)).trans (before_strayAt_succ hj)

/-- A mark is no line break, so it is shown as it is. -/
theorem Marks.flatten_placeholder (marks : Marks) :
    marks.placeholder ≠ '\n' ∧ flatten marks.placeholder = marks.placeholder := by
  have hne : ∀ c, Text.isBlank c = true → marks.placeholder ≠ c := by
    rintro c hc rfl
    have hmark := marks.isMark_placeholder
    simp [isMark, hc] at hmark
  refine ⟨hne '\n' (by decide), if_neg ?_⟩
  rintro (hbreak | hbreak)
  · exact hne '\n' (by decide) hbreak
  · exact hne '\r' (by decide) hbreak

/-- The text around a character is cut at the offsets on each side. -/
theorem toList_context_strayAt {chars : List Char} {i : Nat} (hi : i ≤ chars.length) :
    (strayAt chars i).context.toList = ((chars.take (i + 16)).drop (i - 15)).map flatten := by
  have hlength : (chars.take i).length = i := List.length_take_of_le hi
  have hleft : ((chars.take i).reverse.take 15).reverse = (chars.take i).drop (i - 15) := by
    rw [List.take_reverse, List.reverse_reverse, hlength]
  have hcut : (chars.take (i + 16)).drop (i - 15) =
      (chars.take i).drop (i - 15) ++ (chars.drop i).take 16 := by
    rw [List.take_add, List.drop_append_of_le_length (by omega)]
  rw [hcut, ← hleft, strayAt, String.toList_ofList, contextRadius]

/-- The place that the scanner gives is that of the mark. -/
theorem locates_strayAt {marks : Marks} {chars : List Char} {i : Nat}
    (hstray : (roles marks chars)[i]? = some .stray) :
    (strayAt chars i).Locates marks chars i := by
  have hmark : chars[i]? = some marks.placeholder :=
    (getElem?_eq_placeholder_iff marks chars i).mpr ⟨.stray, hstray, .inr (.inr rfl)⟩
  obtain ⟨hi, hchar⟩ := List.getElem?_eq_some_iff.mp hmark
  obtain ⟨hbreak, hflat⟩ := marks.flatten_placeholder
  -- The lines of the text, with the mark in the line that is open before it.
  obtain ⟨earlier, hcount, hsum, hsplit⟩ := exists_splitOn_append (chars.take i)
  obtain ⟨right, later, hrest⟩ :=
    List.exists_cons_of_ne_nil (List.splitOn_ne_nil '\n' (chars.drop (i + 1)))
  have hlines : chars.splitOn '\n' =
      earlier ++ (lastLine (chars.take i) ++ marks.placeholder :: right) :: later := by
    have hdrop : chars.drop i = marks.placeholder :: chars.drop (i + 1) := by
      rw [← hchar, List.getElem_cons_drop]
    have hwhole := hsplit (chars.drop i)
    rw [List.take_append_drop, hdrop, List.splitOn_cons_eq_if_modifyHead, hrest] at hwhole
    simpa [hbreak] using hwhole
  have hline : (strayAt chars i).line - 1 = earlier.length := hcount.symm
  have hcolumn : (strayAt chars i).column - 1 = (lastLine (chars.take i)).length := by
    rw [column_strayAt, Nat.add_sub_cancel]
  have hcontext := toList_context_strayAt (Nat.le_of_lt hi)
  refine ⟨hstray, Nat.succ_pos _, Nat.succ_pos _,
    ⟨lastLine (chars.take i) ++ marks.placeholder :: right, ?_, ?_⟩, ?_, hcontext, ?_⟩
  · rw [hline, hlines, List.getElem?_append_right (Nat.le_refl _), Nat.sub_self]
    rfl
  · rw [hcolumn, List.getElem?_append_right (Nat.le_refl _), Nat.sub_self]
    rfl
  · rw [hline, hcolumn, hlines, List.take_left, hsum, List.length_take_of_le (Nat.le_of_lt hi)]
  · rw [hcontext, List.getElem?_map, List.getElem?_drop, show i - 15 + min 15 i = i by omega,
      List.getElem?_take_of_lt (by omega), hmark, Option.map_some, hflat]

/-! ### The whole text -/

/-- **Stray marks are located exactly.** If a text has stray marks, all the slices by which the
scanner finds and locates them are within the text and between characters. Each place that it
lists is that of a stray mark, none is left out, and they are in the order of lines and columns. -/
theorem scan_locates_strays (marks : Marks) (text : String) {error : StrayMarks}
    (h : scan marks text = .error error) :
    slicedScan? marks text = some (.error error) ∧
      error.placeholder = marks.placeholder ∧
      error.strays ≠ [] ∧
      (∃ offsets : List Nat, offsets.Pairwise (· < ·) ∧
        (∀ i, i ∈ offsets ↔ (roles marks text.toList)[i]? = some .stray) ∧
        List.Forall₂ (fun i stray => stray.Locates marks text.toList i) offsets error.strays) ∧
      error.strays.Pairwise Stray.Before := by
  have hscan := scan_eq_pieces marks text
  rw [h] at hscan
  split at hscan
  · cases hscan
  rename_i offsets hsome
  cases hscan
  have hsorted := pairwise_strayOffsets (roles marks text.toList)
  have hmem := mem_strayOffsets_iff (roles marks text.toList)
  refine ⟨h ▸ slicedScan?_eq_some marks text, rfl, ?_, ⟨_, hsorted, hmem, ?_⟩, ?_⟩
  · simpa using hsome
  · refine List.forall₂_map_right_iff.mpr (List.forall₂_same.mpr fun i hi => ?_)
    exact locates_strayAt ((hmem i).mp hi)
  · refine List.pairwise_map.mpr (hsorted.imp_of_mem fun {i j} _ hj hij => ?_)
    have hmark := (getElem?_eq_placeholder_iff marks text.toList j).mpr
      ⟨.stray, (hmem j).mp hj, .inr (.inr rfl)⟩
    obtain ⟨hlt, _⟩ := List.getElem?_eq_some_iff.mp hmark
    exact before_strayAt hij (Nat.le_of_lt hlt)

/-- A stray mark in each of two lines, after characters of more than one byte. -/
theorem scan_locates_strays_two_lines :
    let marks : Marks := ⟨'#', '~', by decide, by decide, by decide⟩
    let strays : List Stray :=
      [⟨1, 15, "A ä ~# #x# €c # d e f#"⟩, ⟨2, 4, " #x# €c # d e f#"⟩]
    let text := "A ä ~# #x# €c # d\ne f#"
    scan marks text = .error ⟨'#', strays⟩ ∧
      slicedScan? marks text = some (.error ⟨'#', strays⟩) ∧ strays.Pairwise Stray.Before := by
  intro marks strays text
  have hscan : scan marks text = .error ⟨'#', strays⟩ := by decide
  obtain ⟨hslices, _, _, _, hordered⟩ := scan_locates_strays marks text hscan
  exact ⟨hscan, hslices, hordered⟩

end PageMerge.Template
