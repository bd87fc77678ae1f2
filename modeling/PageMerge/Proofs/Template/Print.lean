import PageMerge.Proofs.Template.Scan

/-!
# Tokens written as template text

Every piece of a text that is not stray is written as it was read: an escape mark stands before a
placeholder mark in literal text exactly where one stood before. So the tokens of a text are a form
of the text that loses nothing.

The same holds of every other way to write placeholders: only they are written in another way then.

## Main definitions

* `EscapesLiterals`: a way to write tokens that differs in how placeholders are written
* `Piece.written`: the same piece by piece

## Main results

* `flatMap_tokensOf`: tokens are written as their pieces
* `stray_not_mem_pieces`: a text that the scanner accepts has no stray piece
* `templateText_of_scan`: tokens of a text, written as template text, are the text
-/

namespace PageMerge.Template

/-! ### Tokens and pieces -/

/-- A way to write tokens, in which an escape mark stands before each placeholder mark of a literal
text. -/
def EscapesLiterals (marks : Marks) (write : Token → List Char) : Prop :=
  ∀ text, write (.literal text) = escapeText marks text.toList

/-- A piece of a text, with its placeholder written in a given way. -/
def Piece.written (marks : Marks) (write : Token → List Char) : Piece → List Char
  | .named name => write (.placeholder (String.ofList name))
  | piece => piece.source marks

section Write

variable {marks : Marks} {write : Token → List Char}

theorem flatMap_joinChar (hwrite : EscapesLiterals marks write) (c : Char) (tokens : Tokens) :
    (joinChar c tokens).flatMap write = escapeText marks [c] ++ tokens.flatMap write := by
  rcases tokens with _ | ⟨text | name, rest⟩
  · simp [joinChar, hwrite _]
  · simp [joinChar, hwrite _, escapeText]
  · simp [joinChar, hwrite _]

/-- A piece that is not stray is written as it was read, but for its placeholder. -/
theorem flatMap_join (hwrite : EscapesLiterals marks write) {piece : Piece}
    (hvalid : piece.Valid marks) (hstray : piece ≠ .stray) (tokens : Tokens) :
    (piece.join marks tokens).flatMap write =
      piece.written marks write ++ tokens.flatMap write := by
  cases piece with
  | plain c =>
    have hmark : c ≠ marks.placeholder := hvalid
    rw [Piece.join, flatMap_joinChar hwrite]
    simp [escapeText, Piece.written, Piece.source, hmark]
  | escaped =>
    rw [Piece.join, flatMap_joinChar hwrite]
    simp [escapeText, Piece.written, Piece.source]
  | named name => simp [Piece.join, Piece.written]
  | stray => exact absurd rfl hstray

/-- Pieces of which none is stray are written as they were read, but for their placeholders. -/
theorem flatMap_tokensOf (hwrite : EscapesLiterals marks write) {parts : List Piece}
    (hvalid : ∀ piece ∈ parts, piece.Valid marks) (hstray : .stray ∉ parts) :
    (tokensOf marks parts).flatMap write = parts.flatMap (Piece.written marks write) := by
  induction parts with
  | nil => rfl
  | cons piece parts ih =>
    rw [List.mem_cons, not_or] at hstray
    have hrest := ih (fun other hother => hvalid other (List.mem_cons_of_mem _ hother)) hstray.2
    rw [tokensOf, List.foldr_cons,
      flatMap_join hwrite (hvalid piece (List.mem_cons_self ..)) (Ne.symm hstray.1),
      List.flatMap_cons, ← hrest, tokensOf]

end Write

theorem escapesLiterals_templateChars (marks : Marks) :
    EscapesLiterals marks (Token.templateChars marks) :=
  fun _ => rfl

/-- Pieces of which none is stray are written as they were read. -/
theorem flatMap_templateChars_tokensOf {marks : Marks} {parts : List Piece}
    (hvalid : ∀ piece ∈ parts, piece.Valid marks) (hstray : .stray ∉ parts) :
    (tokensOf marks parts).flatMap (Token.templateChars marks) =
      parts.flatMap (Piece.source marks) := by
  have hsource : Piece.written marks (Token.templateChars marks) = Piece.source marks := by
    funext piece
    cases piece with
    | named name => simp [Piece.written, Token.templateChars, Piece.source]
    | _ => rfl
  rw [flatMap_tokensOf (escapesLiterals_templateChars marks) hvalid hstray, hsource]

/-! ### Texts that are scanned -/

theorem stray_not_mem_pieces {marks : Marks} {text : List Char}
    (h : strayOffsets (roles marks text) = []) : .stray ∉ pieces marks text := by
  intro hmem
  have hrole : .stray ∈ roles marks text :=
    List.mem_flatMap.mpr ⟨.stray, hmem, List.mem_singleton_self _⟩
  have hnone := List.findIdxs_eq_nil_iff.mp h .stray hrole
  cases hnone

/-- **Writing undoes scanning.** The tokens of a text, written as template text, are the text, for
all marks. -/
theorem templateText_of_scan {marks : Marks} {text : String} {tokens : Tokens}
    (h : scan marks text = .ok tokens) : templateText marks tokens = text := by
  rw [scan_eq_pieces] at h
  split at h
  · rename_i hnone
    obtain rfl := Except.ok.inj h
    rw [templateText, flatMap_templateChars_tokensOf (valid_of_mem_pieces marks _)
      (stray_not_mem_pieces hnone), flatMap_source_pieces, String.ofList_toList]
  · cases h

/-- Escape marks before a placeholder mark, before another character, in a row and at the end of the
text, next to placeholders. -/
theorem templateText_of_scan_tildes :
    let marks : Marks := ⟨'#', '~', by decide, by decide, by decide⟩
    let text := "~~#a #x##y.1#~#~~#b~"
    let tokens : Tokens := [.literal "~#a ", .placeholder "x", .placeholder "y.1", .literal "#~#b~"]
    scan marks text = .ok tokens ∧ templateText marks tokens = text := by
  intro marks text tokens
  have hscan : scan marks text = .ok tokens := by decide
  exact ⟨hscan, templateText_of_scan hscan⟩

end PageMerge.Template
