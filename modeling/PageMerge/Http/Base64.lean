import PageMerge.Text.Utf8

/-!
# Base64

Bytes written with 64 characters: three bytes are four characters, and equals signs fill up the last
group.

## Main definitions

* `base64`: the characters of bytes
-/

namespace PageMerge.Http

open PageMerge.Text (Bytes)

/-- The characters for the numbers below 64. -/
def base64Alphabet : List Char :=
  "ABCDEFGHIJKLMNOPQRSTUVWXYZabcdefghijklmnopqrstuvwxyz0123456789+/".toList

/-- The character for a number below 64. -/
def base64Char (n : Nat) : Char := base64Alphabet.getD n '='

/-- The first characters for a number of 24 bits. -/
def base64Group (count bits : Nat) : List Char :=
  [base64Char (bits >>> 18), base64Char ((bits >>> 12) % 64), base64Char ((bits >>> 6) % 64),
    base64Char (bits % 64)].take count

/-- The characters of bytes. -/
def base64 : Bytes → List Char
  | a :: b :: c :: rest =>
    base64Group 4 (a.toNat <<< 16 + b.toNat <<< 8 + c.toNat) ++ base64 rest
  | [a, b] => base64Group 3 (a.toNat <<< 16 + b.toNat <<< 8) ++ ['=']
  | [a] => base64Group 2 (a.toNat <<< 16) ++ ['=', '=']
  | [] => []

end PageMerge.Http
