import PageMerge.Template.Marks

/-!
# Tokens of a template

A template text is a sequence of literal texts and placeholders. Written back as template text, a
placeholder stands between two placeholder marks, and a placeholder mark in a literal text has an
escape mark before it.

## Main definitions

* `Token`: a literal text or a placeholder
* `names`: the names of the placeholders of a sequence
* `templateText`: a sequence as template text

## Main results

* `names_append`, `templateText_append`: both go through a sequence token by token
-/

namespace PageMerge.Template

/-- A part of a template text. -/
inductive Token where
  | literal (text : String)
  | placeholder (name : String)
  deriving DecidableEq, Repr

/-- The parts of a template text in order. -/
abbrev Tokens := List Token

/-- The names of the placeholders in order of appearance, repeated ones included. -/
def names : Tokens → List String :=
  List.filterMap fun
    | .literal _ => none
    | .placeholder name => some name

/-- A literal text with an escape mark before every placeholder mark. -/
def escapeText (marks : Marks) (text : List Char) : List Char :=
  text.flatMap fun c => if c = marks.placeholder then [marks.escape, c] else [c]

/-- A token as template text. -/
def Token.templateChars (marks : Marks) : Token → List Char
  | .literal text => escapeText marks text.toList
  | .placeholder name => marks.placeholder :: (name.toList ++ [marks.placeholder])

/-- A sequence as template text. -/
def templateText (marks : Marks) (tokens : Tokens) : String :=
  String.ofList (tokens.flatMap (Token.templateChars marks))

@[simp] theorem names_nil : names [] = [] := rfl

@[simp] theorem names_append (s t : Tokens) : names (s ++ t) = names s ++ names t :=
  List.filterMap_append

theorem templateText_append (marks : Marks) (s t : Tokens) :
    templateText marks (s ++ t) = templateText marks s ++ templateText marks t := by
  simp [templateText]

end PageMerge.Template
