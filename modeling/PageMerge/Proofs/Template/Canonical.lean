import PageMerge.Proofs.Template.Print

/-!
# Canonical sequences of tokens

Scanning undoes writing for exactly those sequences of tokens that a scan can give. In these, no
literal text is empty or stands next to another one, every name could stand between two placeholder
marks, and no literal text with a placeholder after it ends with an escape mark: in template text,
that mark would take the one after it away from the placeholder.

## Main definitions

* `Token.Valid`, `Token.Precedes`, `Canonical`: the sequences that a scan can give
* `Token.pieces`: the pieces that a token is written as

## Main results

* `canonical_tokensOf_pieces`: the tokens of a text are canonical
* `pieces_templateChars`, `tokensOf_pieces`: a canonical sequence is read as it was written
* `scan_templateText_iff`: scanning undoes writing exactly on canonical sequences
-/

namespace PageMerge.Template

/-! ### Canonical sequences -/

/-- A literal text is not empty, and a name is one that a placeholder can have. -/
def Token.Valid : Token → Prop
  | .literal text => text ≠ ""
  | .placeholder name => name ≠ "" ∧ ∀ c ∈ name.toList, isNameChar c = true

/-- A token can stand right before another one: not a literal text before a literal text, and not an
escape mark at its end before a placeholder. -/
def Token.Precedes (marks : Marks) : Token → Token → Prop
  | .literal _, .literal _ => False
  | .literal text, .placeholder _ => text.toList.getLast? ≠ some marks.escape
  | .placeholder _, _ => True

/-- A sequence of tokens that a scan can give. -/
structure Canonical (marks : Marks) (tokens : Tokens) : Prop where
  valid : ∀ token ∈ tokens, token.Valid
  precedes : tokens.IsChain (Token.Precedes marks)

section Canonical

variable {marks : Marks}

theorem canonical_nil (marks : Marks) : Canonical marks [] := ⟨by simp, .nil⟩

theorem canonical_cons_iff {token : Token} {tokens : Tokens} :
    Canonical marks (token :: tokens) ↔
      token.Valid ∧ (∀ next ∈ tokens.head?, token.Precedes marks next) ∧
        Canonical marks tokens := by
  constructor
  · rintro ⟨hvalid, hchain⟩
    obtain ⟨hhead, htail⟩ := List.isChain_cons.mp hchain
    exact ⟨hvalid token (List.mem_cons_self ..), hhead,
      fun other hother => hvalid other (List.mem_cons_of_mem _ hother), htail⟩
  · rintro ⟨htoken, hhead, hvalid, hchain⟩
    exact ⟨List.forall_mem_cons.mpr ⟨htoken, hvalid⟩, List.isChain_cons.mpr ⟨hhead, hchain⟩⟩

/-- A character before a canonical sequence; an escape mark must not meet a placeholder. -/
theorem canonical_joinChar {c : Char} {tokens : Tokens} (h : Canonical marks tokens)
    (hescape : c = marks.escape → ∀ next ∈ tokens.head?, next.IsLiteral) :
    Canonical marks (joinChar c tokens) := by
  rcases tokens with _ | ⟨text | name, rest⟩
  · exact canonical_cons_iff.mpr ⟨by simp [Token.Valid], by simp, h⟩
  · -- The character becomes the first one of a literal text, whose end stays what it was.
    obtain ⟨htext, hnext, hrest⟩ := canonical_cons_iff.mp h
    refine canonical_cons_iff.mpr ⟨by simp [Token.Valid], ?_, hrest⟩
    intro next hmem
    have hprecedes := hnext next hmem
    cases next with
    | literal other => exact hprecedes
    | placeholder name =>
      obtain ⟨last, hlast⟩ := Option.ne_none_iff_exists'.mp fun hnone =>
        htext (String.toList_eq_nil_iff.mp (List.getLast?_eq_none_iff.mp hnone))
      rw [Token.Precedes, hlast] at hprecedes
      rwa [Token.Precedes, String.toList_ofList, List.getLast?_cons, hlast]
  · refine canonical_cons_iff.mpr ⟨by simp [Token.Valid], ?_, h⟩
    rintro _ ⟨⟩
    have hc : c ≠ marks.escape := fun heq => hescape heq _ rfl
    simpa [Token.Precedes] using hc

/-- The tokens of a text start with a placeholder only if the text starts with its mark. -/
theorem head?_eq_of_head?_tokensOf {text : List Char} {name : String}
    (h : (tokensOf marks (pieces marks text)).head? = some (.placeholder name)) :
    text.head? = some marks.placeholder := by
  -- A character that stands for itself is the first one of a literal text.
  have hchar : ∀ c tokens, (joinChar c tokens).head? ≠ some (.placeholder name) := by
    rintro c (_ | ⟨_ | _, _⟩) <;> simp [joinChar]
  induction text using pieces_induction marks with
  | nil =>
    rw [pieces] at h
    cases h
  | escaped rest =>
    rw [pieces_escaped] at h
    exact absurd h (hchar _ _)
  | named => rfl
  | stray => rfl
  | plain c rest hmark hescape =>
    rw [pieces_plain hmark hescape] at h
    exact absurd h (hchar _ _)

/-- The tokens of a text are canonical. -/
theorem canonical_tokensOf_pieces (marks : Marks) (text : List Char) :
    Canonical marks (tokensOf marks (pieces marks text)) := by
  induction text using pieces_induction marks with
  | nil =>
    rw [pieces]
    exact canonical_nil marks
  | escaped rest ih =>
    rw [pieces_escaped]
    exact canonical_joinChar ih fun heq => absurd heq marks.distinct
  | named rest name after hclosed ih =>
    obtain ⟨hname, hchars, _⟩ := closedName?_eq_some_iff.mp hclosed
    rw [pieces_named hclosed]
    refine canonical_cons_iff.mpr ⟨⟨?_, ?_⟩, fun _ _ => trivial, ih⟩
    · simpa using hname
    · simpa using hchars
  | stray rest hopen ih =>
    rw [pieces_stray hopen]
    exact canonical_joinChar ih fun heq => absurd heq marks.distinct
  | plain c rest hmark hescape ih =>
    rw [pieces_plain hmark hescape]
    refine canonical_joinChar ih ?_
    -- An escape mark right before a placeholder would have been read together with its mark.
    rintro rfl next hnext
    cases next with
    | literal text => trivial
    | placeholder name => exact absurd ⟨rfl, head?_eq_of_head?_tokensOf hnext⟩ hescape

end Canonical

/-! ### Reading what was written -/

/-- The piece that a character of a literal text is written as. -/
def charPiece (marks : Marks) (c : Char) : Piece :=
  if c = marks.placeholder then .escaped else .plain c

/-- The pieces that a token is written as. -/
def Token.pieces (marks : Marks) : Token → List Piece
  | .literal text => text.toList.map (charPiece marks)
  | .placeholder name => [.named name.toList]

section Reading

variable {marks : Marks}

/-- A text that is written as literal text starts with no placeholder mark. -/
theorem head?_escapeText_ne (marks : Marks) (c : Char) (text rest : List Char) :
    (escapeText marks (c :: text) ++ rest).head? ≠ some marks.placeholder := by
  rw [escapeText, List.flatMap_cons]
  split
  · simpa using marks.distinct.symm
  · rename_i hc
    simpa using hc

/-- Literal text is read character by character, unless an escape mark at its end meets a
placeholder mark. -/
theorem pieces_escapeText_append {text rest : List Char}
    (h : text.getLast? = some marks.escape → rest.head? ≠ some marks.placeholder) :
    pieces marks (escapeText marks text ++ rest) =
      text.map (charPiece marks) ++ pieces marks rest := by
  induction text with
  | nil => rfl
  | cons c text ih =>
    have hrest : text.getLast? = some marks.escape → rest.head? ≠ some marks.placeholder := by
      intro hlast
      refine h ?_
      rw [List.getLast?_cons, hlast, Option.getD_some]
    rw [escapeText, List.flatMap_cons, ← escapeText, List.map_cons, List.cons_append, charPiece,
      ← ih hrest]
    split
    · rename_i hc
      rw [hc]
      exact pieces_escaped ..
    · rename_i hc
      refine pieces_plain hc ?_
      rintro ⟨rfl, hhead⟩
      cases text with
      | nil => exact h rfl hhead
      | cons d text => exact head?_escapeText_ne marks d text rest hhead

/-- A canonical sequence is written as the pieces of its tokens. -/
theorem pieces_templateChars {tokens : Tokens} (h : Canonical marks tokens) :
    pieces marks (tokens.flatMap (Token.templateChars marks)) =
      tokens.flatMap (Token.pieces marks) := by
  induction tokens with
  | nil => rw [List.flatMap_nil, List.flatMap_nil, pieces]
  | cons token tokens ih =>
    obtain ⟨hvalid, hnext, hrest⟩ := canonical_cons_iff.mp h
    rw [List.flatMap_cons, List.flatMap_cons, ← ih hrest]
    cases token with
    | literal text =>
      refine pieces_escapeText_append fun hlast => ?_
      -- Only a placeholder comes after a literal text, which has no escape mark at its end then.
      rcases tokens with _ | ⟨other | name, _⟩
      · simp
      · exact absurd (hnext _ rfl) id
      · exact absurd hlast (hnext _ rfl)
    | placeholder name =>
      obtain ⟨hname, hchars⟩ := hvalid
      have hne : name.toList ≠ [] := fun hnil => hname (String.toList_eq_nil_iff.mp hnil)
      rw [Token.templateChars, List.cons_append, List.append_assoc, List.singleton_append,
        pieces_named (closedName?_eq_some_iff.mpr ⟨hne, hchars, rfl⟩)]
      rfl

/-- The pieces of literal text are its characters. -/
theorem tokensOf_charPieces (text : List Char) (parts : List Piece) :
    tokensOf marks (text.map (charPiece marks) ++ parts) =
      text.foldr joinChar (tokensOf marks parts) := by
  have hjoin : (fun c => (charPiece marks c).join marks) = joinChar := by
    funext c tokens
    rw [charPiece]
    split
    · rename_i hc
      rw [hc, Piece.join]
    · rfl
  rw [tokensOf, List.foldr_append, List.foldr_map, hjoin, tokensOf]

/-- The pieces of a canonical sequence have its tokens. -/
theorem tokensOf_pieces {tokens : Tokens} (h : Canonical marks tokens) :
    tokensOf marks (tokens.flatMap (Token.pieces marks)) = tokens := by
  induction tokens with
  | nil => rfl
  | cons token tokens ih =>
    obtain ⟨hvalid, hnext, hrest⟩ := canonical_cons_iff.mp h
    rw [List.flatMap_cons]
    cases token with
    | literal text =>
      rw [Token.pieces, tokensOf_charPieces, ih hrest]
      refine Token.join_eq_cons (fun heq => hvalid (Token.literal.inj heq)) ?_
      rintro (other | name) hmem ⟨_, hliteral⟩
      · exact hnext _ hmem
      · exact hliteral
    | placeholder name =>
      rw [Token.pieces, List.singleton_append, tokensOf, List.foldr_cons, ← tokensOf, ih hrest,
        Piece.join, String.ofList_toList]

end Reading

/-! ### Scanning what was written -/

/-- Tokens are written without a stray mark. -/
theorem stray_not_mem_flatMap_pieces (marks : Marks) (tokens : Tokens) :
    .stray ∉ tokens.flatMap (Token.pieces marks) := by
  rw [List.mem_flatMap]
  rintro ⟨text | name, _, hstray⟩
  · obtain ⟨c, _, hc⟩ := List.mem_map.mp hstray
    rw [charPiece] at hc
    split at hc <;> cases hc
  · simp [Token.pieces] at hstray

/-- A scan gives the tokens of the pieces if none of these is stray. -/
theorem scan_eq_ok_of_not_mem {marks : Marks} {text : String}
    (h : .stray ∉ pieces marks text.toList) :
    scan marks text = .ok (tokensOf marks (pieces marks text.toList)) := by
  have hroles : ∀ piece : Piece, .stray ∈ piece.roles → piece = .stray := by
    rintro (c | _ | name | _) hmem <;> simp [Piece.roles] at hmem ⊢
  have hnone : strayOffsets (roles marks text.toList) = [] := by
    rw [strayOffsets, List.findIdxs_eq_nil_iff]
    intro role hrole
    obtain ⟨piece, hpiece, hmem⟩ := List.mem_flatMap.mp hrole
    rw [beq_eq_false_iff_ne]
    rintro rfl
    rw [hroles piece hmem] at hpiece
    exact h hpiece
  rw [scan_eq_pieces, hnone]

/-- The tokens of a scan are those of the pieces. -/
theorem eq_tokensOf_of_scan {marks : Marks} {text : String} {tokens : Tokens}
    (h : scan marks text = .ok tokens) : tokens = tokensOf marks (pieces marks text.toList) := by
  rw [scan_eq_pieces] at h
  split at h
  · exact (Except.ok.inj h).symm
  · cases h

theorem canonical_of_scan {marks : Marks} {text : String} {tokens : Tokens}
    (h : scan marks text = .ok tokens) : Canonical marks tokens := by
  rw [eq_tokensOf_of_scan h]
  exact canonical_tokensOf_pieces marks text.toList

/-- A canonical sequence is scanned as it was written. -/
theorem scan_templateText_of_canonical {marks : Marks} {tokens : Tokens}
    (h : Canonical marks tokens) : scan marks (templateText marks tokens) = .ok tokens := by
  have hpieces : pieces marks (templateText marks tokens).toList =
      tokens.flatMap (Token.pieces marks) := by
    rw [templateText, String.toList_ofList, pieces_templateChars h]
  rw [scan_eq_ok_of_not_mem (hpieces ▸ stray_not_mem_flatMap_pieces marks tokens), hpieces,
    tokensOf_pieces h]

/-- A text in which every placeholder mark is escaped is one literal text. -/
theorem scan_escapeText (marks : Marks) (text : String) :
    scan marks (String.ofList (escapeText marks text.toList)) =
      .ok (if text = "" then [] else [.literal text]) := by
  have hcanonical : Canonical marks (if text = "" then [] else [.literal text]) := by
    split
    · exact canonical_nil marks
    · rename_i hne
      exact canonical_cons_iff.mpr ⟨hne, by simp, canonical_nil marks⟩
  rw [← scan_templateText_of_canonical hcanonical]
  congr 1
  split
  · rename_i hempty
    rw [hempty]
    rfl
  · simp [templateText, Token.templateChars]

/-- **Scanning undoes writing exactly on canonical sequences.** A sequence of tokens that is written
as template text is scanned as it was if and only if it is canonical; what a scan gives always is;
and a text in which an escape mark stands before every placeholder mark is one literal text, or no
token if it is empty. -/
theorem scan_templateText_iff (marks : Marks) :
    (∀ tokens, scan marks (templateText marks tokens) = .ok tokens ↔ Canonical marks tokens) ∧
    (∀ text tokens, scan marks text = .ok tokens → Canonical marks tokens) ∧
    ∀ text : String, scan marks (String.ofList (escapeText marks text.toList)) =
      .ok (if text = "" then [] else [.literal text]) :=
  ⟨fun _ => ⟨canonical_of_scan, scan_templateText_of_canonical⟩,
    fun _ _ h => canonical_of_scan h, scan_escapeText marks⟩

/-- An escape mark at the end of a literal text takes the mark of the placeholder away. -/
example : let marks : Marks := ⟨'#', '~', by decide, by decide, by decide⟩
    let tokens : Tokens := [.literal "a~", .placeholder "x"]
    templateText marks tokens = "a~#x#" ∧
      scan marks "a~#x#" = .error ⟨'#', [⟨1, 5, "a~#x#"⟩]⟩ := by
  decide

end PageMerge.Template
