import PageMerge.Decimal.Shortest

/-!
# JSON values

A JSON value as it is written: the members of an object stand in the order of the text, and a name
may occur several times, in which case the last member counts.

## Main definitions

* `Value`: a JSON value
* `Value.member?`: the member of an object with a name
* `Value.at?`: the value at the end of a path of names and positions
* `Value.canonical`: members sorted by name, the last of each name only
-/

namespace PageMerge.Json

/-- A JSON number: an integer, or a number that was written with a point or an exponent or is too
large for 64 bits. -/
inductive Number where
  | integer (value : Int)
  | real (value : Decimal.Number)

/-- A JSON value. -/
inductive Value where
  | null
  | bool (value : Bool)
  | number (value : Number)
  | text (value : String)
  | array (items : List Value)
  | object (members : List (String × Value))

instance : Inhabited Value := ⟨.null⟩

namespace Value

/-- The integer `n`. -/
def int (n : Int) : Value := .number (.integer n)

/-- The natural number `n`. -/
def nat (n : Nat) : Value := .int n

/-- A text, or null. -/
def optionalText : Option String → Value
  | none => .null
  | some s => .text s

/-- The last member of a list with the given name. -/
def lookupLast (name : String) : List (String × Value) → Option Value
  | [] => none
  | (key, value) :: rest =>
    match lookupLast name rest with
    | some later => some later
    | none => if key = name then some value else none

/-- The member of an object with the given name; nothing else has members. -/
def member? (name : String) : Value → Option Value
  | .object members => lookupLast name members
  | _ => none

/-- The position in an array that a name stands for: decimal digits without a superfluous zero. -/
def position? (name : String) : Option Nat :=
  match name.toList with
  | [] => none
  | '0' :: _ :: _ => none
  | digits =>
    if digits.all Char.isDigit then
      let n := digits.foldl (fun n c => n * 10 + (c.toNat - 48)) 0
      if n < UInt64.size then some n else none
    else none

/-- The member of an object with a name, or the item of an array at the position of that name. -/
def part? (name : String) : Value → Option Value
  | .array items => (position? name).bind fun i => items[i]?
  | value => value.member? name

/-- The value that is reached by going into the part of each name in turn. -/
def at? : List String → Value → Option Value
  | [], value => some value
  | name :: path, value => (value.part? name).bind (at? path)

/-- The text that a value is. -/
def text? : Value → Option String
  | .text s => some s
  | _ => none

/-- The natural number of 64 bits that a value is. -/
def nat64? : Value → Option Nat
  | .number (.integer n) => if 0 ≤ n ∧ n < UInt64.size then some n.toNat else none
  | _ => none

/-- The items of a value that is an array. -/
def items? : Value → Option (List Value)
  | .array items => some items
  | _ => none

/-- A member put in its place among members sorted by name; it replaces the one of its name. -/
def insertSorted (name : String) (value : Value) : List (String × Value) → List (String × Value)
  | [] => [(name, value)]
  | (key, old) :: rest =>
    if name < key then (name, value) :: (key, old) :: rest
    else if name = key then (name, value) :: rest
    else (key, old) :: insertSorted name value rest

/-- The members sorted by name, the last of each name only. -/
def sortMembers (members : List (String × Value)) : List (String × Value) :=
  members.foldl (fun sorted (name, value) => insertSorted name value sorted) []

mutual

/-- The value with the members of every object sorted by name, the last of each name only. -/
def canonical : Value → Value
  | .array items => .array (canonicalItems items)
  | .object members => .object (sortMembers (canonicalMembers members))
  | value => value

/-- The canonical forms of a list of values. -/
def canonicalItems : List Value → List Value
  | [] => []
  | item :: rest => canonical item :: canonicalItems rest

/-- The members with canonical values, in their order. -/
def canonicalMembers : List (String × Value) → List (String × Value)
  | [] => []
  | (name, value) :: rest => (name, canonical value) :: canonicalMembers rest

end

end Value

end PageMerge.Json
