import PageMerge.Text.Visible

/-!
# Quoted texts

A text between double quotes as a message shows it: quotes, backslashes and the usual controls are
written with a backslash, and a character without a visible form by its code point.

## Main definitions

* `quoted`: a text between double quotes
-/

namespace PageMerge.Text

/-- The lower-case hexadecimal digits of a code point. -/
def hexDigits (n : Nat) : List Char := Nat.toDigits 16 n

/-- A character inside a quoted text. -/
def quotedChar (c : Char) : List Char :=
  match c with
  | '\x00' => ['\\', '0']
  | '\t' => ['\\', 't']
  | '\n' => ['\\', 'n']
  | '\r' => ['\\', 'r']
  | '"' => ['\\', '"']
  | '\\' => ['\\', '\\']
  | c => if isVisible c then [c] else '\\' :: 'u' :: '{' :: (hexDigits c.toNat ++ ['}'])

/-- A text between double quotes. -/
def quoted (s : String) : String :=
  String.ofList ('"' :: (s.toList.flatMap quotedChar ++ ['"']))

end PageMerge.Text
