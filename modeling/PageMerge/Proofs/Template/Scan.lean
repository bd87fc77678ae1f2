import Mathlib.Data.List.Chain
import Mathlib.Logic.Function.Iterate
import PageMerge.Proofs.Template.Grammar
import PageMerge.Template.Scan

/-!
# The scanner finds the pieces of a text

The scanner gives up a name only where it meets a character that cannot belong to it, and goes on
from there, while the grammar goes on right after the mark that opened the name. Both come to the
same, since no character of a name is a mark.

## Main definitions

* `Scan.absorb`: the scanner after a piece
* `Merged`: tokens whose literal texts are not empty and do not touch
* `Scan.turn`: the scanner looks at a character and takes it, or looks at it again

## Main results

* `Scan.finish_foldl_step`: the scanner in literal text absorbs the pieces of the text
* `Scan.tokens_foldl_absorb`, `Scan.strays_foldl_absorb`: what it has found then
* `Scan.exists_iterate_turn`: it looks at each character twice at most
* `scan_eq_pieces`: the scanner and the grammar agree
-/

namespace PageMerge.Template

/-! ### Literal texts that meet -/

/-- A literal text. -/
def Token.IsLiteral : Token → Prop
  | .literal _ => True
  | .placeholder _ => False

/-- No literal text is empty, and no two of them stand next to each other. -/
structure Merged (tokens : Tokens) : Prop where
  ne_empty : ∀ token ∈ tokens, token ≠ .literal ""
  apart : tokens.IsChain fun token next => ¬(token.IsLiteral ∧ next.IsLiteral)

/-- A token before tokens; literal texts that meet are one. -/
def Token.join : Token → Tokens → Tokens
  | .literal text, tokens => text.toList.foldr joinChar tokens
  | .placeholder name, tokens => .placeholder name :: tokens

/-- Tokens, the last one first, before other tokens. -/
def putBefore (before tokens : Tokens) : Tokens :=
  before.foldl (fun tokens token => token.join tokens) tokens

/-- Characters that meet no literal text are a literal text of their own. -/
theorem foldr_joinChar {chars : List Char} (hchars : chars ≠ []) {tokens : Tokens}
    (hnext : ∀ next ∈ tokens.head?, ¬next.IsLiteral) :
    chars.foldr joinChar tokens = .literal (String.ofList chars) :: tokens := by
  induction chars with
  | nil => exact absurd rfl hchars
  | cons c rest ih =>
    rw [List.foldr_cons]
    -- The last character is the one that could meet a literal text.
    cases rest with
    | nil =>
      rcases tokens with _ | ⟨_ | _, _⟩
      · rfl
      · exact absurd trivial (hnext _ rfl)
      · rfl
    | cons d rest =>
      rw [ih (by simp)]
      simp [joinChar]

/-- A token that meets no token of its kind stands before the others as it is. -/
theorem Token.join_eq_cons {token : Token} (hempty : token ≠ .literal "") {tokens : Tokens}
    (hnext : ∀ next ∈ tokens.head?, ¬(token.IsLiteral ∧ next.IsLiteral)) :
    token.join tokens = token :: tokens := by
  cases token with
  | placeholder name => rfl
  | literal text =>
    have hchars : text.toList ≠ [] := by
      intro h
      exact hempty (congrArg Token.literal (String.toList_eq_nil_iff.mp h))
    rw [Token.join, foldr_joinChar hchars fun next hmem hlit => hnext next hmem ⟨trivial, hlit⟩]
    simp

/-- Tokens whose literal texts do not touch stand before others as they are. -/
theorem putBefore_eq_append {before : Tokens} (hmerged : Merged before) : ∀ {tokens : Tokens},
    (∀ token ∈ before.head?, ∀ next ∈ tokens.head?, ¬(token.IsLiteral ∧ next.IsLiteral)) →
      putBefore before tokens = before.reverse ++ tokens := by
  induction before with
  | nil => exact fun _ => rfl
  | cons token before ih =>
    intro tokens hnext
    obtain ⟨hhead, htail⟩ := List.isChain_cons.mp hmerged.apart
    have hrest : Merged before :=
      ⟨fun other hother => hmerged.ne_empty other (List.mem_cons_of_mem _ hother), htail⟩
    -- The token touches neither what comes after it nor the token before it.
    rw [putBefore, List.foldl_cons,
      Token.join_eq_cons (hmerged.ne_empty token (List.mem_cons_self ..)) (hnext token rfl)]
    refine (ih hrest ?_).trans (by simp)
    rintro other hother _ ⟨⟩ hboth
    exact hhead other hother hboth.symm

namespace Scan

theorem putBefore_addChar (before : Tokens) (c : Char) (tokens : Tokens) :
    putBefore (addChar before c) tokens = putBefore before (joinChar c tokens) := by
  rcases before with _ | ⟨text | name, before⟩
  · simp [addChar, putBefore, Token.join]
  · simp [addChar, putBefore, Token.join]
  · simp [addChar, putBefore, Token.join]

theorem merged_addChar {tokens : Tokens} (h : Merged tokens) (c : Char) :
    Merged (addChar tokens c) := by
  obtain ⟨hempty, hapart⟩ := h
  -- The character joins the literal text at the end, or is one of its own after a placeholder.
  rcases tokens with _ | ⟨text | name, rest⟩
  · exact ⟨by simp [addChar], by simp [addChar]⟩
  · rw [List.isChain_cons] at hapart
    refine ⟨?_, List.isChain_cons.mpr hapart⟩
    intro token htoken
    rcases List.mem_cons.mp htoken with rfl | htoken
    · simp
    · exact hempty token (List.mem_cons_of_mem _ htoken)
  · refine ⟨?_, List.isChain_cons.mpr ⟨?_, hapart⟩⟩
    · intro token htoken
      rcases List.mem_cons.mp htoken with rfl | htoken
      · simp
      · exact hempty token htoken
    · rintro _ ⟨⟩ hboth
      exact hboth.2

theorem merged_placeholder {tokens : Tokens} (h : Merged tokens) (name : String) :
    Merged (.placeholder name :: tokens) := by
  refine ⟨?_, List.isChain_cons.mpr ⟨fun _ _ hboth => hboth.1, h.apart⟩⟩
  intro token htoken
  rcases List.mem_cons.mp htoken with rfl | htoken
  · simp
  · exact h.ne_empty token htoken

/-! ### From mark to mark -/

section Steps

variable {marks : Marks} (tokens : Tokens) (strays : List Nat) (offset : Nat)

theorem ne_marks_of_isNameChar (marks : Marks) {c : Char} (h : isNameChar c = true) :
    c ≠ marks.escape ∧ c ≠ marks.placeholder := by
  constructor
  · rintro rfl
    rw [marks.escape_not_name] at h
    cases h
  · rintro rfl
    rw [marks.placeholder_not_name] at h
    cases h

theorem foldl_step_literal {name : List Char} (hname : ∀ c ∈ name, isNameChar c = true) :
    name.foldl (step marks) ⟨.inLiteral, tokens, strays, offset⟩ =
      ⟨.inLiteral, addChars tokens name, strays, offset + name.length⟩ := by
  induction name generalizing tokens offset with
  | nil => rfl
  | cons c name ih =>
    obtain ⟨hescape, hmark⟩ := ne_marks_of_isNameChar marks (hname c (List.mem_cons_self ..))
    have hstep : step marks ⟨.inLiteral, tokens, strays, offset⟩ c =
        ⟨.inLiteral, addChar tokens c, strays, offset + 1⟩ := by
      simp [step, meet, literalStep, hescape, hmark]
    rw [List.foldl_cons, hstep, ih _ _ fun d hd => hname d (List.mem_cons_of_mem _ hd)]
    simp only [addChars, List.foldl_cons, List.length_cons]
    congr 1
    omega

theorem foldl_step_name {name : List Char} (hname : ∀ c ∈ name, isNameChar c = true)
    (openedAt : Nat) (before : List Char) :
    name.foldl (step marks) ⟨.inName openedAt before, tokens, strays, offset⟩ =
      ⟨.inName openedAt (name.reverse ++ before), tokens, strays, offset + name.length⟩ := by
  induction name generalizing before offset with
  | nil => rfl
  | cons c name ih =>
    have hc := hname c (List.mem_cons_self ..)
    have hstep : step marks ⟨.inName openedAt before, tokens, strays, offset⟩ c =
        ⟨.inName openedAt (c :: before), tokens, strays, offset + 1⟩ := by
      simp [step, meet, (ne_marks_of_isNameChar marks hc).2, hc]
    rw [List.foldl_cons, hstep, ih _ fun d hd => hname d (List.mem_cons_of_mem _ hd)]
    simp only [List.reverse_cons, List.append_assoc, List.singleton_append, List.length_cons]
    congr 1
    omega

theorem foldl_step_closed {rest name after : List Char}
    (h : closedName? marks rest = some (name, after)) :
    (marks.placeholder :: rest).foldl (step marks) ⟨.inLiteral, tokens, strays, offset⟩ =
      after.foldl (step marks) ⟨.inLiteral, .placeholder (String.ofList name) :: tokens, strays,
        offset + (name.length + 2)⟩ := by
  obtain ⟨hne, hname, rfl⟩ := closedName?_eq_some_iff.mp h
  -- The first mark opens the name, and only the second one, after a name, closes it.
  have hopen : step marks ⟨.inLiteral, tokens, strays, offset⟩ marks.placeholder =
      ⟨.inName offset [], tokens, strays, offset + 1⟩ := by
    simp [step, meet, literalStep, marks.distinct]
  have hclose : step marks ⟨.inName offset name.reverse, tokens, strays, offset + 1 + name.length⟩
      marks.placeholder = ⟨.inLiteral, .placeholder (String.ofList name) :: tokens, strays,
        offset + (name.length + 2)⟩ := by
    have hreverse : name.reverse ≠ [] := by simpa using hne
    simp only [step, meet, List.reverse_reverse]
    rw [if_pos ⟨trivial, hreverse⟩]
    congr 1
    omega
  rw [List.foldl_cons, hopen, List.foldl_append, foldl_step_name _ _ _ hname,
    List.append_nil, List.foldl_cons, hclose]

/-- A name that no mark closes is given up: it comes to the same as if its mark was literal from the
start. -/
theorem finish_foldl_step_open {rest : List Char} (h : closedName? marks rest = none)
    (openedAt : Nat) :
    (rest.foldl (step marks) ⟨.inName openedAt [], tokens, strays, offset⟩).finish marks =
      (rest.foldl (step marks) ⟨.inLiteral, addChar tokens marks.placeholder, openedAt :: strays,
        offset⟩).finish marks := by
  have hname : ∀ c ∈ rest.takeWhile isNameChar, isNameChar c = true :=
    fun c hc => List.mem_takeWhile_imp hc
  have hstop := List.head?_dropWhile_not isNameChar rest
  rw [← List.takeWhile_append_dropWhile (p := isNameChar) (l := rest), List.foldl_append,
    List.foldl_append, foldl_step_name _ _ _ hname, foldl_step_literal _ _ _ hname]
  unfold closedName? at h
  generalize rest.takeWhile isNameChar = name at h ⊢
  generalize rest.dropWhile isNameChar = after at h hstop ⊢
  -- What comes after the characters of names makes the scanner give up the name.
  cases after with
  | nil => simp [finish, abandon, addChars]
  | cons c after =>
    have hc : isNameChar c = false := by simpa using hstop
    have hopen : ¬(c = marks.placeholder ∧ name ≠ []) := by simpa using h
    rw [List.foldl_cons, List.foldl_cons]
    congr 2
    simp only [step, meet, List.append_nil, ne_eq, List.reverse_eq_nil_iff]
    rw [if_neg hopen, hc]
    simp [abandon, addChars]

/-- An escape mark that escapes nothing is literal. -/
theorem finish_foldl_step_escape {rest : List Char} (h : rest.head? ≠ some marks.placeholder) :
    (rest.foldl (step marks) ⟨.sawEscape, tokens, strays, offset⟩).finish marks =
      (rest.foldl (step marks) ⟨.inLiteral, addChar tokens marks.escape, strays, offset⟩).finish
        marks := by
  cases rest with
  | nil => rfl
  | cons c rest =>
    have hc : c ≠ marks.placeholder := fun heq => h (congrArg some heq)
    rw [List.foldl_cons, List.foldl_cons]
    congr 2
    simp [step, meet, hc]

end Steps

/-! ### Piece by piece -/

/-- The scanner in literal text after a piece. -/
def absorb (marks : Marks) (scan : Scan) : Piece → Scan
  | .plain c => { scan with tokens := addChar scan.tokens c, offset := scan.offset + 1 }
  | .escaped =>
    { scan with tokens := addChar scan.tokens marks.placeholder, offset := scan.offset + 2 }
  | .named name => { scan with
      tokens := .placeholder (String.ofList name) :: scan.tokens
      offset := scan.offset + (name.length + 2) }
  | .stray => { scan with
      tokens := addChar scan.tokens marks.placeholder
      strays := scan.offset :: scan.strays
      offset := scan.offset + 1 }

/-- The scanner in literal text absorbs the pieces of the text. -/
theorem finish_foldl_step (marks : Marks) (text : List Char) : ∀ tokens strays offset,
    (text.foldl (step marks) ⟨.inLiteral, tokens, strays, offset⟩).finish marks =
      (pieces marks text).foldl (absorb marks) ⟨.inLiteral, tokens, strays, offset⟩ := by
  -- What the scanner has found before a piece is arbitrary, since it only ever adds to it.
  induction text using pieces_induction marks with
  | nil =>
    intro tokens strays offset
    rw [pieces]
    rfl
  | escaped rest ih =>
    intro tokens strays offset
    rw [pieces_escaped, List.foldl_cons (l := pieces marks rest), absorb, ← ih]
    have hescaped : step marks (step marks ⟨.inLiteral, tokens, strays, offset⟩ marks.escape)
        marks.placeholder =
          ⟨.inLiteral, addChar tokens marks.placeholder, strays, offset + 2⟩ := by
      simp [step, meet, literalStep]
    rw [List.foldl_cons, List.foldl_cons, hescaped]
  | named rest name after hclosed ih =>
    intro tokens strays offset
    rw [pieces_named hclosed, List.foldl_cons (l := pieces marks after), absorb, ← ih,
      foldl_step_closed tokens strays offset hclosed]
  | stray rest hopen ih =>
    intro tokens strays offset
    -- The scanner finds out only later that the mark is stray.
    rw [pieces_stray hopen, List.foldl_cons (l := pieces marks rest), absorb, ← ih,
      ← finish_foldl_step_open tokens strays (offset + 1) hopen offset, List.foldl_cons]
    simp [step, meet, literalStep, marks.distinct]
  | plain c rest hmark hescape ih =>
    intro tokens strays offset
    rw [pieces_plain hmark hescape, List.foldl_cons (l := pieces marks rest), absorb, ← ih,
      List.foldl_cons]
    -- An escape mark is plain if it escapes nothing, but the scanner waits for what comes after it.
    by_cases hc : c = marks.escape
    · subst hc
      rw [← finish_foldl_step_escape tokens strays (offset + 1) fun hhead => hescape ⟨rfl, hhead⟩]
      simp [step, meet, literalStep]
    · simp [step, meet, literalStep, hc, hmark]

theorem merged_absorb (marks : Marks) {scan : Scan} (h : Merged scan.tokens) (piece : Piece) :
    Merged (absorb marks scan piece).tokens := by
  cases piece with
  | named name => exact merged_placeholder h _
  | _ => exact merged_addChar h _

/-- The tokens of the scanner stand before those of the pieces to come. -/
theorem putBefore_foldl_absorb (marks : Marks) (parts : List Piece) : ∀ scan : Scan,
    putBefore (parts.foldl (absorb marks) scan).tokens [] =
      putBefore scan.tokens (tokensOf marks parts) := by
  induction parts with
  | nil => exact fun _ => rfl
  | cons piece parts ih =>
    intro scan
    rw [List.foldl_cons, ih, tokensOf, tokensOf, List.foldr_cons]
    cases piece with
    | named name => rfl
    | _ => exact putBefore_addChar ..

/-- The tokens of the scanner after pieces are the tokens of the pieces. -/
theorem tokens_foldl_absorb (marks : Marks) (parts : List Piece) :
    (parts.foldl (absorb marks) start).tokens.reverse = tokensOf marks parts := by
  have hmerged : Merged (parts.foldl (absorb marks) start).tokens := by
    refine List.foldlRecOn (motive := fun scan => Merged scan.tokens) parts (absorb marks) ?_ ?_
    · exact ⟨by simp [start], .nil⟩
    · exact fun scan h piece _ => merged_absorb marks h piece
  have hbefore := putBefore_foldl_absorb marks parts start
  rw [putBefore_eq_append hmerged (by simp), List.append_nil] at hbefore
  exact hbefore

theorem offset_absorb (marks : Marks) (scan : Scan) (piece : Piece) :
    (absorb marks scan piece).offset = scan.offset + piece.roles.length := by
  cases piece <;> simp [absorb, Piece.roles]

theorem strays_absorb (marks : Marks) (scan : Scan) (piece : Piece) :
    (absorb marks scan piece).strays =
      (piece.roles.findIdxs (· == .stray) scan.offset).reverse ++ scan.strays := by
  cases piece with
  | named name =>
    -- Neither the marks nor the characters of a placeholder are stray.
    have hnone : (Piece.named name).roles.findIdxs (· == .stray) scan.offset = [] := by
      rw [List.findIdxs_eq_nil_iff]
      simp only [Piece.roles, List.mem_cons, List.mem_append, List.mem_map]
      rintro role (rfl | ⟨_, _, rfl⟩ | rfl | hrole)
      · rfl
      · rfl
      · rfl
      · cases hrole
    rw [hnone]
    rfl
  | _ => simp [absorb, Piece.roles]

/-- The stray marks of the scanner after pieces are those of the pieces, the last one first. -/
theorem strays_foldl_absorb (marks : Marks) (parts : List Piece) : ∀ scan : Scan,
    (parts.foldl (absorb marks) scan).strays =
      ((parts.flatMap Piece.roles).findIdxs (· == .stray) scan.offset).reverse ++ scan.strays := by
  induction parts with
  | nil => exact fun _ => rfl
  | cons piece parts ih =>
    intro scan
    rw [List.foldl_cons, ih, offset_absorb, strays_absorb, List.flatMap_cons,
      List.findIdxs_append, List.reverse_append, List.append_assoc]

/-! ### Turns -/

/-- A turn of the scanner on what is left of a text: it looks at the first character, and takes it
or leaves it to be looked at again as literal text. -/
def turn (marks : Marks) : Scan × List Char → Scan × List Char
  | (scan, []) => (scan, [])
  | (scan, c :: rest) =>
    let taken : Scan := { scan with offset := scan.offset + 1 }
    match scan.state with
    | .inLiteral => ({ scan.literalStep marks c with offset := scan.offset + 1 }, rest)
    | .sawEscape =>
      if c = marks.placeholder then
        ({ taken with state := .inLiteral, tokens := addChar scan.tokens c }, rest)
      else
        ({ scan with state := .inLiteral, tokens := addChar scan.tokens marks.escape }, c :: rest)
    | .inName openedAt name =>
      if c = marks.placeholder ∧ name ≠ [] then
        ({ taken with
            state := .inLiteral
            tokens := .placeholder (String.ofList name.reverse) :: scan.tokens }, rest)
      else if isNameChar c then ({ taken with state := .inName openedAt (c :: name) }, rest)
      else (scan.abandon marks openedAt name, c :: rest)

/-- A character that is left is taken in the next turn, as literal text. -/
theorem turn_or_turn_turn (marks : Marks) (scan : Scan) (c : Char) (rest : List Char) :
    turn marks (scan, c :: rest) = (scan.step marks c, rest) ∨
      turn marks (turn marks (scan, c :: rest)) = (scan.step marks c, rest) := by
  obtain ⟨_ | _ | ⟨openedAt, name⟩, tokens, strays, offset⟩ := scan
  · exact .inl rfl
  · by_cases hc : c = marks.placeholder
    · left
      simp [turn, step, meet, hc]
    · right
      simp [turn, step, meet, hc]
  · by_cases hclose : c = marks.placeholder ∧ name ≠ []
    · left
      simp only [turn, step, meet]
      rw [if_pos hclose, if_pos hclose]
    by_cases hname : isNameChar c = true
    · left
      simp only [turn, step, meet]
      rw [if_neg hclose, if_neg hclose, if_pos hname, if_pos hname]
    · right
      simp only [turn, step, meet]
      rw [if_neg hclose, if_neg hclose, if_neg hname, if_neg hname]
      rfl

/-- The scanner comes to the end of a text in at most two turns for each character. -/
theorem exists_iterate_turn (marks : Marks) (text : List Char) : ∀ scan : Scan,
    ∃ turns ≤ 2 * text.length,
      (turn marks)^[turns] (scan, text) = (text.foldl (step marks) scan, []) := by
  induction text with
  | nil => exact fun scan => ⟨0, Nat.le_refl 0, rfl⟩
  | cons c rest ih =>
    intro scan
    obtain ⟨turns, hle, hend⟩ := ih (scan.step marks c)
    rw [List.length_cons]
    rcases turn_or_turn_turn marks scan c rest with hturn | hturn
    · refine ⟨turns + 1, by omega, ?_⟩
      rw [Function.iterate_succ_apply, hturn, hend, List.foldl_cons]
    · refine ⟨turns + 2, by omega, ?_⟩
      rw [Function.iterate_succ_apply, Function.iterate_succ_apply, hturn, hend, List.foldl_cons]

end Scan

/-! ### The whole text -/

/-- The scanner gives the tokens of the pieces if none of them is stray, and the places of the stray
ones else. -/
theorem scan_eq_pieces (marks : Marks) (text : String) :
    scan marks text =
      match strayOffsets (roles marks text.toList) with
      | [] => .ok (tokensOf marks (pieces marks text.toList))
      | offsets => .error ⟨marks.placeholder, offsets.map (strayAt text.toList)⟩ := by
  have hrun : Scan.run marks text.toList =
      (pieces marks text.toList).foldl (Scan.absorb marks) Scan.start :=
    Scan.finish_foldl_step marks text.toList [] [] 0
  have hstrays := Scan.strays_foldl_absorb marks (pieces marks text.toList) Scan.start
  have htokens := Scan.tokens_foldl_absorb marks (pieces marks text.toList)
  rw [scan, hrun]
  change _ = (strayOffsets (roles marks text.toList)).reverse ++ [] at hstrays
  rw [List.append_nil] at hstrays
  split
  · rename_i hnone
    rw [hnone, eq_comm, List.reverse_eq_nil_iff] at hstrays
    rw [hstrays, htokens]
  · rename_i hsome
    rw [hstrays, List.reverse_reverse]
    split
    · rename_i hnil
      rw [hnil] at hstrays
      exact absurd hstrays hsome
    · rfl

/-- **The scanner reads the grammar.** Every text is the sequence of its pieces, and the scanner
comes to its end in at most two turns for each character. It gives the tokens of the pieces if no
placeholder mark is stray, and else the places of the stray ones, each once and in text order. Every
placeholder mark, and no other character, is escaped, delimits a placeholder or is one of these. -/
theorem scan_reads_grammar (marks : Marks) (text : String) :
    let chars := text.toList
    let offsets := strayOffsets (roles marks chars)
    (pieces marks chars).flatMap (Piece.source marks) = chars ∧
    (∃ turns ≤ 2 * chars.length, (Scan.turn marks)^[turns] (Scan.start, chars) =
      (chars.foldl (Scan.step marks) Scan.start, [])) ∧
    (offsets = [] → scan marks text = .ok (tokensOf marks (pieces marks chars))) ∧
    (offsets ≠ [] →
      scan marks text = .error ⟨marks.placeholder, offsets.map (strayAt chars)⟩) ∧
    offsets.Pairwise (· < ·) ∧ (∀ i, i ∈ offsets ↔ (roles marks chars)[i]? = some .stray) ∧
    ∀ i : Nat, chars[i]? = some marks.placeholder ↔
      ∃ role : Role, (roles marks chars)[i]? = some role ∧ role.IsMark := by
  intro chars offsets
  have hscan := scan_eq_pieces marks text
  refine ⟨flatMap_source_pieces marks chars, Scan.exists_iterate_turn marks chars Scan.start, ?_,
    ?_, pairwise_strayOffsets _, mem_strayOffsets_iff _,
    getElem?_eq_placeholder_iff marks chars⟩
  · intro hnone
    rw [hscan, show strayOffsets (roles marks text.toList) = [] from hnone]
  · intro hsome
    rw [hscan]
    split
    · rename_i hnil
      exact absurd hnil hsome
    · rfl

end PageMerge.Template
