import PageMerge.Proofs.Template.Canonical
import PageMerge.Template.Render

/-!
# Values in template text

A row can be put into a template in two ways: the template is rendered, or its text is written with
the values in the place of the placeholders, an escape mark before each placeholder mark in them,
and is scanned after that. Both give the same text. Escaping goes through a text character by
character, so that the end of one value or literal text and the start of the next one never become
something else together.

## Main definitions

* `Token.embed`, `embed`: a sequence as template text with the values of a row
* `StaysLiteral`: the values of a row are nothing but text in a part of a template

## Main results

* `embed_eq_escapeText`: the text with the values is the escaped rendered text
* `embed_of_scan`: it is the text of the template with its placeholders replaced where they stand
* `values_stay_literal`: the values of a row add nothing to a template but text
-/

namespace PageMerge.Template

open PageMerge.Data (Row)

/-! ### Values as template text -/

/-- A token as template text, with the value of a row in the place of a placeholder. An escape mark
stands before each placeholder mark of the value. -/
def Token.embed (marks : Marks) (row : Row) : Token → List Char
  | .literal text => Token.templateChars marks (.literal text)
  | .placeholder name => escapeText marks ((row.get? name).getD "").toList

/-- A sequence as template text, with the values of a row in the place of its placeholders. -/
def embed (marks : Marks) (row : Row) (tokens : Tokens) : String :=
  String.ofList (tokens.flatMap (Token.embed marks row))

section Embed

variable (marks : Marks) (row : Row)

theorem escapeText_append (first rest : List Char) :
    escapeText marks (first ++ rest) = escapeText marks first ++ escapeText marks rest :=
  List.flatMap_append

/-- A token with the value of a row is the escaped text that it gives for the row. -/
theorem Token.embed_eq (token : Token) :
    token.embed marks row = escapeText marks (token.fill row).toList := by
  cases token <;> rfl

/-- A sequence with the values of a row is the escaped text that it gives for the row. -/
theorem embed_eq_escapeText (tokens : Tokens) :
    embed marks row tokens = String.ofList (escapeText marks (fill row tokens).toList) := by
  rw [embed, fill]
  congr 1
  induction tokens with
  | nil => rfl
  | cons token tokens ih =>
    rw [List.flatMap_cons, ih, Token.embed_eq, ← escapeText_append]
    simp

/-- A sequence with the values of a row is scanned as one literal text. -/
theorem scan_embed (tokens : Tokens) :
    scan marks (embed marks row tokens) =
      .ok (if fill row tokens = "" then [] else [.literal (fill row tokens)]) := by
  rw [embed_eq_escapeText]
  exact scan_escapeText marks (fill row tokens)

/-- The tokens of a text with the values of a row are the text with its placeholders replaced where
they stand. -/
theorem embed_of_scan {text : String} {tokens : Tokens} (h : scan marks text = .ok tokens) :
    embed marks row tokens = String.ofList
      ((pieces marks text.toList).flatMap (Piece.written marks (Token.embed marks row))) := by
  rw [scan_eq_pieces] at h
  split at h
  · rename_i hnone
    obtain rfl := Except.ok.inj h
    have hescapes : EscapesLiterals marks (Token.embed marks row) := fun _ => rfl
    rw [embed, flatMap_tokensOf hescapes (valid_of_mem_pieces marks _) (stray_not_mem_pieces hnone)]
  · cases h

end Embed

/-! ### Rendered articles -/

/-- A row that has a value for each placeholder is rendered. -/
theorem render_of_values {template : Template} {row : Row}
    (h : ∀ name ∈ names template.title ++ names template.body, (row.get? name).isSome = true) :
    template.render row = .ok (template.articleOf row) := by
  have hnone : template.unknownNames row = [] := by
    have hfilter : ((names template.title ++ names template.body).filter fun name =>
        (row.get? name).isNone) = [] := by
      rw [List.filter_eq_nil_iff]
      intro name hname
      simpa [← Option.isSome_iff_ne_none] using h name hname
    rw [unknownNames, hfilter]
    rfl
  rw [render, hnone]

/-- The values of a row are nothing but text in a part of a template that was rendered: with the
values, the part is scanned as one literal text, the rendered one, and as nothing if that is empty.
For every text that the part was scanned from, this is the text with its placeholders replaced where
they stand. -/
structure StaysLiteral (marks : Marks) (row : Row) (part : Tokens) (rendered : String) : Prop where
  scanned : scan marks (embed marks row part) =
    .ok (if rendered = "" then [] else [.literal rendered])
  replaced : ∀ text, scan marks text = .ok part → embed marks row part = String.ofList
    ((pieces marks text.toList).flatMap (Piece.written marks (Token.embed marks row)))

/-- **The values of a row add nothing to a template but text**, whichever marks they contain and
wherever these stand. A row that has a value for each placeholder is rendered, and title and content
of its article are what title and body of the template are scanned as with its values. -/
theorem values_stay_literal (marks : Marks) {template : Template} {row : Row}
    (hvalues : ∀ name ∈ names template.title ++ names template.body,
      (row.get? name).isSome = true) :
    ∃ article, template.render row = .ok article ∧
      StaysLiteral marks row template.title article.title ∧
      StaysLiteral marks row template.body article.content :=
  ⟨template.articleOf row, render_of_values hvalues,
    ⟨scan_embed marks row template.title, fun _ => embed_of_scan marks row⟩,
    ⟨scan_embed marks row template.body, fun _ => embed_of_scan marks row⟩⟩

/-- Values that start and end with marks, next to each other and to literal marks. -/
theorem values_stay_literal_marks :
    let marks : Marks := ⟨'#', '~', by decide, by decide, by decide⟩
    let row : Row := ⟨2, "1", [("x", "#y#~"), ("y", "~#"), ("z", "")]⟩
    let template : Template := ⟨[.placeholder "z"],
      [.literal "~#~#", .placeholder "x", .placeholder "y", .literal "a~"], "page", "storage"⟩
    let text := "~~#~~##x##y#a~"
    Template.ofPage marks ⟨"100", "#z#", text, "page", "storage"⟩ = .ok template ∧
      template.render row = .ok ⟨"1", "", "~#~##y#~~#a~", "page", "storage"⟩ ∧
      embed marks row template.body = "~~#~~#~#y~#~~~#a~" ∧
      StaysLiteral marks row template.body "~#~##y#~~#a~" := by
  intro marks row template text
  have hvalues : ∀ name ∈ names template.title ++ names template.body,
      (row.get? name).isSome = true := by
    decide
  obtain ⟨article, hrender, -, hbody⟩ := values_stay_literal marks hvalues
  have harticle : template.render row = .ok ⟨"1", "", "~#~##y#~~#a~", "page", "storage"⟩ := by
    decide
  obtain rfl := Except.ok.inj (hrender.symm.trans harticle)
  exact ⟨by decide, harticle, by decide, hbody⟩

end PageMerge.Template
