/-!
# Shortest decimals

The shortest decimal of a binary floating-point value: of the decimals that read back to the value,
one with the fewest digits, and of those the nearest. The reals that read back to a positive value
`m * 2 ^ q` form an interval that reaches half the distance to either neighbour; its ends belong to
it exactly when `m` is even.

On the grid of the multiples of `10 ^ k`, an interval that holds a point of the grid holds one of
the two points around the value, so for each number of digits only these two are tried.

## Main definitions

* `Binary`: a positive finite value by mantissa and exponent
* `Scientific`: a decimal by digits and exponent
* `Binary.shortest`: the shortest decimal of a value
* `Number.ofFloat`: a floating-point number by sign and shortest decimal
* `toFloat`: the floating-point number nearest to a decimal
-/

namespace PageMerge.Decimal

/-- A positive finite value `mantissa * 2 ^ exponent`. -/
structure Binary where
  mantissa : Nat
  exponent : Int
  /-- The next smaller value is half as far away as the next larger one. -/
  nearBelow : Bool

/-- The value `digits * 10 ^ exponent`. -/
structure Scientific where
  digits : Nat
  exponent : Int
  deriving DecidableEq, Repr

/-- Which of two equally near decimals is taken. -/
inductive Tie where
  /-- The one with the even last digit. -/
  | toEven
  /-- The larger one. -/
  | up
  deriving DecidableEq, Repr

/-- The numerator and denominator of `base ^ exponent`. -/
def power (base : Nat) (exponent : Int) : Nat × Nat :=
  (Nat.pow base exponent.toNat, Nat.pow base (-exponent).toNat)

namespace Binary

/-- The numerator and denominator of the value in units of `10 ^ k`. -/
def ratio (x : Binary) (k : Int) : Nat × Nat :=
  let (twos, halves) := power 2 x.exponent
  let (tens, tenths) := power 10 k
  (x.mantissa * twos * tenths, halves * tens)

/-- The decimal `d * 10 ^ k` lies among the reals that read back to the value. The bounds are
compared in quarters of the distance to the next larger value. -/
def readsBack (x : Binary) (d : Nat) (k : Int) : Bool :=
  let (twos, halves) := power 2 x.exponent
  let (tens, tenths) := power 10 k
  let point := 4 * d * tens * halves
  let low := (4 * x.mantissa - (if x.nearBelow then 1 else 2)) * twos * tenths
  let high := (4 * x.mantissa + 2) * twos * tenths
  if x.mantissa % 2 = 0 then low ≤ point && point ≤ high else low < point && point < high

/-- The exponent `e` of the leading digit: `10 ^ e` is at most the value and `10 ^ (e + 1)` is
more. The logarithm of the mantissa gives a lower bound that is at most three too small. -/
def leadingExponent (x : Binary) : Int :=
  let guess := (x.mantissa.log2 + x.exponent) * 30103 / 100000 - 1
  let fits := fun (j : Nat) =>
    let (num, den) := x.ratio (guess + j + 1)
    num < den
  guess + ((List.range 4).find? fits).getD 3

/-- The grid of `n` digits: the nearer of the two neighbours of the value that reads back to it. -/
def onGrid? (x : Binary) (tie : Tie) (k : Int) : Option Scientific :=
  let (num, den) := x.ratio k
  let below := num / den
  match x.readsBack below k, x.readsBack (below + 1) k with
  | false, false => none
  | true, false => some ⟨below, k⟩
  | false, true => some ⟨below + 1, k⟩
  | true, true =>
    let twice := 2 * num
    let middle := (2 * below + 1) * den
    let takeBelow := twice < middle ||
      (twice == middle && tie == .toEven && below % 2 == 0)
    some ⟨if takeBelow then below else below + 1, k⟩

/-- The shortest decimal that reads back to the value. The first grid is the one above the leading
digit, since the value may be just below a power of ten; seventeen digits always suffice. -/
def shortest (x : Binary) (tie : Tie) : Scientific :=
  let top := x.leadingExponent
  ((List.range 18).findSome? fun (n : Nat) => x.onGrid? tie (top + 1 - n)).getD ⟨x.mantissa, 0⟩

end Binary

/-- A floating-point number as text shows it. -/
inductive Number where
  | nan
  | infinite (negative : Bool)
  | zero (negative : Bool)
  | finite (negative : Bool) (magnitude : Binary)

/-- The number held in the bits of a double: a sign, eleven bits of exponent and 52 of mantissa. -/
def Number.ofBits (bits : UInt64) : Number :=
  let negative := bits >>> 63 == 1
  let biased := ((bits >>> 52) &&& 0x7FF).toNat
  let fraction := (bits &&& 0xFFFFFFFFFFFFF).toNat
  if biased = 0x7FF then
    if fraction = 0 then .infinite negative else .nan
  else if biased = 0 then
    if fraction = 0 then .zero negative else .finite negative ⟨fraction, -1074, false⟩
  else
    .finite negative
      ⟨0x10000000000000 + fraction, (biased : Int) - 1075, fraction == 0 && biased != 1⟩

/-- The number that a double is. -/
def Number.ofFloat (x : Float) : Number := .ofBits x.toBits

/-- How a number is laid out as text. -/
structure Layout where
  /-- Which of two equally near decimals is shown. -/
  tie : Tie
  /-- The least exponent of the leading digit that is written without an exponent. -/
  plainFrom : Int
  /-- The least larger exponent of the leading digit that is written with an exponent. -/
  plainBelow : Int

namespace Layout

/-- A run of zeros. -/
def zeros (count : Nat) : List Char := List.replicate count '0'

/-- The digits without an exponent, and with a decimal point in any case. -/
def plain (digits : List Char) (exponent : Int) : List Char :=
  let whole := digits.length + exponent
  if 0 ≤ exponent then digits ++ zeros exponent.toNat ++ ['.', '0']
  else if 0 < whole then digits.take whole.toNat ++ '.' :: digits.drop whole.toNat
  else '0' :: '.' :: zeros (-whole).toNat ++ digits

/-- The leading digit, a point before the other digits if there are any, and the exponent. -/
def scientific (digits : List Char) (exponent : Int) : List Char :=
  let top := exponent + digits.length - 1
  let head := match digits with
    | [] => []
    | [d] => [d]
    | d :: rest => d :: '.' :: rest
  head ++ 'e' :: (toString top).toList

/-- The text of a positive finite value. -/
def magnitude (layout : Layout) (x : Binary) : List Char :=
  let decimal := x.shortest layout.tie
  let digits := Nat.toDigits 10 decimal.digits
  let top := decimal.exponent + digits.length - 1
  if layout.plainFrom ≤ top ∧ top < layout.plainBelow then plain digits decimal.exponent
  else scientific digits decimal.exponent

/-- The text of a number. -/
def render (layout : Layout) : Number → String
  | .nan => "NaN"
  | .infinite false => "inf"
  | .infinite true => "-inf"
  | .zero false => "0.0"
  | .zero true => "-0.0"
  | .finite negative x =>
    String.ofList ((if negative then ['-'] else []) ++ layout.magnitude x)

end Layout

/-- The double nearest to `digits * 10 ^ exponent`. Beyond a decimal exponent of 310 every decimal
is infinite, and below -400 every one with fewer digits than the excess is zero. -/
def toFloat (digits : Nat) (exponent : Int) : Float :=
  let top := exponent + (Nat.toDigits 10 digits).length
  if digits = 0 then 0
  else if 400 < top then Float.ofScientific 1 false 400
  else if top < -400 then 0
  else if 0 ≤ exponent then Float.ofScientific digits false exponent.toNat
  else Float.ofScientific digits true (-exponent).toNat

end PageMerge.Decimal
