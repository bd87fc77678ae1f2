/-!
# Blank characters and trimming

The blank characters are those with the Unicode property *White_Space*. Trimming removes them from
both ends of a text.

## Main definitions

* `isBlank`: a blank character
* `trimWith`: a list without the elements of a class at both ends
* `trim`: a text without the blanks at both ends
-/

namespace PageMerge.Text

/-- A character with the property *White_Space*. -/
def isBlank (c : Char) : Bool :=
  let n := c.toNat
  (0x09 ≤ n && n ≤ 0x0D) || n == 0x20 || n == 0x85 || n == 0xA0 || n == 0x1680 ||
    (0x2000 ≤ n && n ≤ 0x200A) || n == 0x2028 || n == 0x2029 || n == 0x202F || n == 0x205F ||
    n == 0x3000

/-- The list without the elements that satisfy `p` at its two ends. -/
def trimWith (p : α → Bool) (l : List α) : List α :=
  ((l.dropWhile p).reverse.dropWhile p).reverse

/-- The text without the blanks at its two ends. -/
def trim (s : String) : String := String.ofList (trimWith isBlank s.toList)

@[simp] theorem trimWith_nil (p : α → Bool) : trimWith p [] = [] := rfl

/-- A list whose ends both lie outside the class is left as it is. -/
theorem trimWith_eq_self {p : α → Bool} {l : List α} (hfirst : ∀ a ∈ l.head?, p a = false)
    (hlast : ∀ a ∈ l.getLast?, p a = false) : trimWith p l = l := by
  have drop_eq : ∀ m : List α, (∀ a ∈ m.head?, p a = false) → m.dropWhile p = m := by
    intro m hm
    cases m with
    | nil => rfl
    | cons a m => simp [List.dropWhile, hm a (by simp)]
  unfold trimWith
  rw [drop_eq l hfirst, drop_eq l.reverse (by simpa [List.head?_reverse] using hlast),
    List.reverse_reverse]

@[simp] theorem toList_trim (s : String) : (trim s).toList = trimWith isBlank s.toList := by
  simp [trim]

end PageMerge.Text
