import Mathlib.Data.List.Forall2
import Mathlib.Data.List.TakeWhile
import PageMerge.Template.Token

/-!
# The grammar of template text

Template text is read from left to right in pieces. An escape mark and a placeholder mark after it
are one piece; so are a placeholder mark, a name and the placeholder mark that closes it. Every
other character is a piece of its own, and if it is a placeholder mark, it is stray: reading goes on
right after it.

## Main definitions

* `Piece`, `pieces`: the pieces of a text
* `Piece.source`, `tokensOf`: the characters and the tokens that pieces stand for
* `Role`, `roles`: the part that each character of a text plays in its piece
* `strayOffsets`: where the stray marks are

## Main results

* `closedName?_eq_some_iff`: when a name is closed
* `flatMap_source_pieces`: the pieces of a text are the whole text
* `getElem?_eq_placeholder_iff`: the parts that a placeholder mark can play
* `mem_strayOffsets_iff`, `pairwise_strayOffsets`: each stray mark is listed once, in text order
-/

namespace PageMerge.Template

/-! ### Pieces -/

/-- A piece of template text. -/
inductive Piece where
  /-- A character that stands for itself and is no placeholder mark. -/
  | plain (c : Char)
  /-- An escape mark and a placeholder mark. -/
  | escaped
  /-- A name between two placeholder marks. -/
  | named (name : List Char)
  /-- A placeholder mark that belongs to no other piece. -/
  | stray
  deriving DecidableEq, Repr

/-- The name at the start of a text that a placeholder mark closes, and the text after the mark. -/
def closedName? (marks : Marks) (text : List Char) : Option (List Char × List Char) :=
  match text.dropWhile isNameChar with
  | [] => none
  | mark :: after =>
    let name := text.takeWhile isNameChar
    if mark = marks.placeholder ∧ name ≠ [] then some (name, after) else none

/-- A name is closed exactly if it is not empty and a placeholder mark stands right after it. -/
theorem closedName?_eq_some_iff {marks : Marks} {text name after : List Char} :
    closedName? marks text = some (name, after) ↔
      name ≠ [] ∧ (∀ c ∈ name, isNameChar c = true) ∧
        text = name ++ marks.placeholder :: after := by
  constructor
  · intro h
    unfold closedName? at h
    have hsplit := List.takeWhile_append_dropWhile (p := isNameChar) (l := text)
    split at h
    · cases h
    rename_i mark rest hdrop
    dsimp only at h
    split at h
    · rename_i hclosed
      obtain ⟨rfl, hname⟩ := hclosed
      obtain ⟨rfl, rfl⟩ := Prod.mk.inj (Option.some.inj h)
      refine ⟨hname, fun c hc => List.mem_takeWhile_imp hc, ?_⟩
      rw [← hdrop, hsplit]
    · cases h
  · rintro ⟨hname, hchars, rfl⟩
    -- The mark is no character of a name, so the name ends where it stands.
    have hstop := marks.placeholder_not_name
    have htake : (name ++ marks.placeholder :: after).takeWhile isNameChar = name := by
      rw [List.takeWhile_append_of_pos hchars, List.takeWhile_cons_of_neg (by simp [hstop]),
        List.append_nil]
    have hdrop : (name ++ marks.placeholder :: after).dropWhile isNameChar =
        marks.placeholder :: after := by
      rw [List.dropWhile_append_of_pos hchars, List.dropWhile_cons_of_neg (by simp [hstop])]
    unfold closedName?
    rw [hdrop]
    simp only [htake, true_and]
    exact if_pos hname

theorem length_lt_of_closedName? {marks : Marks} {text name after : List Char}
    (h : closedName? marks text = some (name, after)) : after.length < text.length := by
  obtain ⟨_, _, rfl⟩ := closedName?_eq_some_iff.mp h
  simp only [List.length_append, List.length_cons]
  omega

/-- The pieces of a text. -/
def pieces (marks : Marks) : List Char → List Piece
  | [] => []
  | c :: rest =>
    if c = marks.escape ∧ rest.head? = some marks.placeholder then
      .escaped :: pieces marks rest.tail
    else if c = marks.placeholder then
      match h : closedName? marks rest with
      | some (name, after) =>
        have := length_lt_of_closedName? h
        .named name :: pieces marks after
      | none => .stray :: pieces marks rest
    else .plain c :: pieces marks rest
  termination_by text => text.length
  decreasing_by all_goals simp_wf; try omega

/-! ### What pieces stand for -/

/-- The characters of a piece. -/
def Piece.source (marks : Marks) : Piece → List Char
  | .plain c => [c]
  | .escaped => [marks.escape, marks.placeholder]
  | .named name => marks.placeholder :: (name ++ [marks.placeholder])
  | .stray => [marks.placeholder]

/-- A plain piece is no placeholder mark, and a name has characters of names only. -/
def Piece.Valid (marks : Marks) : Piece → Prop
  | .plain c => c ≠ marks.placeholder
  | .named name => ∀ c ∈ name, isNameChar c = true
  | _ => True

/-- A character before tokens; it joins a literal text at their start. -/
def joinChar (c : Char) : Tokens → Tokens
  | .literal text :: rest => .literal (String.ofList (c :: text.toList)) :: rest
  | tokens => .literal (String.singleton c) :: tokens

/-- A piece before tokens. An escaped or stray placeholder mark is literal text. -/
def Piece.join (marks : Marks) : Piece → Tokens → Tokens
  | .plain c, tokens => joinChar c tokens
  | .named name, tokens => .placeholder (String.ofList name) :: tokens
  | .escaped, tokens => joinChar marks.placeholder tokens
  | .stray, tokens => joinChar marks.placeholder tokens

/-- The tokens of pieces, literal texts next to each other being one. -/
def tokensOf (marks : Marks) (parts : List Piece) : Tokens := parts.foldr (Piece.join marks) []

/-- The part that a character plays in its piece. -/
inductive Role where
  /-- It stands for itself. -/
  | literal
  /-- It is an escape mark with a placeholder mark after it. -/
  | escape
  /-- It is a placeholder mark with an escape mark before it. -/
  | escaped
  /-- It opens or closes a placeholder. -/
  | delimiter
  /-- It belongs to the name of a placeholder. -/
  | name
  /-- It is a stray placeholder mark. -/
  | stray
  deriving DecidableEq, Repr

/-- The parts that the characters of a piece play. -/
def Piece.roles : Piece → List Role
  | .plain _ => [.literal]
  | .escaped => [.escape, .escaped]
  | .named name => .delimiter :: (name.map (fun _ => .name) ++ [.delimiter])
  | .stray => [.stray]

/-- The parts that the characters of a text play. -/
def roles (marks : Marks) (text : List Char) : List Role := (pieces marks text).flatMap Piece.roles

/-- The places of the stray marks among characters with these roles. -/
def strayOffsets (parts : List Role) : List Nat := parts.findIdxs (· == .stray)

/-! ### Reading -/

section Reading

variable {marks : Marks} {rest : List Char}

theorem pieces_escaped (marks : Marks) (rest : List Char) :
    pieces marks (marks.escape :: marks.placeholder :: rest) = .escaped :: pieces marks rest := by
  rw [pieces]
  simp

theorem pieces_named {name after : List Char} (h : closedName? marks rest = some (name, after)) :
    pieces marks (marks.placeholder :: rest) = .named name :: pieces marks after := by
  rw [pieces, if_neg fun hescape => marks.distinct hescape.1, if_pos rfl]
  split
  · rename_i _ _ hclosed
    rw [h] at hclosed
    obtain ⟨rfl, rfl⟩ := Prod.mk.inj (Option.some.inj hclosed)
    rfl
  · rename_i hnone
    rw [h] at hnone
    cases hnone

theorem pieces_stray (h : closedName? marks rest = none) :
    pieces marks (marks.placeholder :: rest) = .stray :: pieces marks rest := by
  rw [pieces, if_neg fun hescape => marks.distinct hescape.1, if_pos rfl]
  split
  · rename_i hclosed
    rw [h] at hclosed
    cases hclosed
  · rfl

theorem pieces_plain {c : Char} (hmark : c ≠ marks.placeholder)
    (hescape : ¬(c = marks.escape ∧ rest.head? = some marks.placeholder)) :
    pieces marks (c :: rest) = .plain c :: pieces marks rest := by
  rw [pieces, if_neg hescape, if_neg hmark]

end Reading

/-- Reading a text goes piece by piece: a property of all texts is one that each piece hands on from
the text after it. -/
theorem pieces_induction (marks : Marks) {motive : List Char → Prop} (nil : motive [])
    (escaped : ∀ rest, motive rest → motive (marks.escape :: marks.placeholder :: rest))
    (named : ∀ rest name after, closedName? marks rest = some (name, after) → motive after →
      motive (marks.placeholder :: rest))
    (stray : ∀ rest, closedName? marks rest = none → motive rest →
      motive (marks.placeholder :: rest))
    (plain : ∀ c rest, c ≠ marks.placeholder →
      ¬(c = marks.escape ∧ rest.head? = some marks.placeholder) → motive rest →
      motive (c :: rest)) (text : List Char) : motive text := by
  induction text using pieces.induct marks with
  | case1 => exact nil
  | case2 c rest hescape ih =>
    -- The look-ahead of the definition becomes a second mark at the head of the text.
    obtain ⟨rfl, hhead⟩ := hescape
    cases rest with
    | nil => cases hhead
    | cons d rest =>
      obtain rfl := Option.some.inj hhead
      exact escaped rest ih
  | case3 rest name after hclosed _ _ ih => exact named rest name after hclosed ih
  | case4 rest hopen _ ih => exact stray rest hopen ih
  | case5 c rest hescape hmark ih => exact plain c rest hmark hescape ih

/-- The pieces of a text are the whole text. -/
theorem flatMap_source_pieces (marks : Marks) (text : List Char) :
    (pieces marks text).flatMap (Piece.source marks) = text := by
  induction text using pieces_induction marks with
  | nil => rw [pieces, List.flatMap_nil]
  | escaped rest ih => simp [pieces_escaped, Piece.source, ih]
  | named rest name after hclosed ih =>
    obtain ⟨_, _, rfl⟩ := closedName?_eq_some_iff.mp hclosed
    simp [pieces_named hclosed, Piece.source, ih]
  | stray rest hopen ih => simp [pieces_stray hopen, Piece.source, ih]
  | plain c rest hmark hescape ih => simp [pieces_plain hmark hescape, Piece.source, ih]

theorem valid_of_mem_pieces (marks : Marks) (text : List Char) :
    ∀ piece ∈ pieces marks text, piece.Valid marks := by
  induction text using pieces_induction marks with
  | nil => simp [pieces]
  | escaped rest ih => simpa [pieces_escaped, Piece.Valid] using ih
  | named rest name after hclosed ih =>
    obtain ⟨_, hname, _⟩ := closedName?_eq_some_iff.mp hclosed
    simpa [pieces_named hclosed, Piece.Valid] using ⟨hname, ih⟩
  | stray rest hopen ih => simpa [pieces_stray hopen, Piece.Valid] using ih
  | plain c rest hmark hescape ih =>
    simpa [pieces_plain hmark hescape, Piece.Valid] using ⟨hmark, ih⟩

/-! ### The parts of characters -/

/-- A part that a placeholder mark plays. -/
def Role.IsMark (role : Role) : Prop := role = .escaped ∨ role = .delimiter ∨ role = .stray

/-- A character of a valid piece plays a part of a placeholder mark exactly if it is one. -/
theorem Piece.Valid.forall₂_roles {marks : Marks} {piece : Piece} (h : piece.Valid marks) :
    List.Forall₂ (fun c role => c = marks.placeholder ↔ role.IsMark) (piece.source marks)
      piece.roles := by
  cases piece with
  | plain c =>
    have hmark : c ≠ marks.placeholder := h
    simpa [Piece.source, Piece.roles, Role.IsMark] using hmark
  | escaped => simp [Piece.source, Piece.roles, Role.IsMark, marks.distinct.symm]
  | stray => simp [Piece.source, Piece.roles, Role.IsMark]
  | named name =>
    refine .cons (by simp [Role.IsMark]) ?_
    induction name with
    | nil => simp [Role.IsMark]
    | cons c name ih =>
      refine .cons ?_ (ih fun d hd => h d (List.mem_cons_of_mem _ hd))
      have hname := h c (List.mem_cons_self ..)
      -- A character of a name is no mark.
      have hne : c ≠ marks.placeholder := by
        rintro rfl
        rw [marks.placeholder_not_name] at hname
        cases hname
      simpa [Role.IsMark] using hne

/-- Every character of a text plays one part, and it plays a part of a placeholder mark exactly if
it is one. -/
theorem forall₂_roles (marks : Marks) (text : List Char) :
    List.Forall₂ (fun c role => c = marks.placeholder ↔ role.IsMark) text (roles marks text) := by
  have hpieces : ∀ parts : List Piece, (∀ piece ∈ parts, piece.Valid marks) →
      List.Forall₂ (fun c role => c = marks.placeholder ↔ role.IsMark)
        (parts.flatMap (Piece.source marks)) (parts.flatMap Piece.roles) := by
    intro parts hvalid
    induction parts with
    | nil => exact .nil
    | cons piece parts ih =>
      rw [List.flatMap_cons, List.flatMap_cons]
      apply List.rel_append (hvalid piece (List.mem_cons_self ..)).forall₂_roles
      exact ih fun other hother => hvalid other (List.mem_cons_of_mem _ hother)
  have h := hpieces (pieces marks text) (valid_of_mem_pieces marks text)
  rwa [flatMap_source_pieces] at h

/-- A placeholder mark is escaped, delimits a placeholder or is stray; no other character is any of
these. -/
theorem getElem?_eq_placeholder_iff (marks : Marks) (text : List Char) (i : Nat) :
    text[i]? = some marks.placeholder ↔
      ∃ role, (roles marks text)[i]? = some role ∧ role.IsMark := by
  have hroles := forall₂_roles marks text
  -- Characters and parts are walked side by side, wherever the pieces begin.
  generalize roles marks text = parts at hroles ⊢
  induction hroles generalizing i with
  | nil => simp
  | cons hfirst _ ih =>
    cases i with
    | zero => simp [hfirst]
    | succ i => simpa using ih i

theorem mem_strayOffsets_iff (parts : List Role) (i : Nat) :
    i ∈ strayOffsets parts ↔ parts[i]? = some .stray := by
  rw [strayOffsets, List.mem_findIdxs_iff_exists_getElem_pos, List.getElem?_eq_some_iff]
  simp only [beq_iff_eq]

/-- Stray marks are listed in text order, each of them once. -/
theorem pairwise_strayOffsets (parts : List Role) : (strayOffsets parts).Pairwise (· < ·) :=
  List.pairwise_findIdxs

end PageMerge.Template
