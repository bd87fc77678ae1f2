import PageMerge.Decimal.Shortest

/-!
# TOML values

The values of a TOML document. A table keeps its members in the order of the document. The content
of a date or a time plays no role here.

## Main definitions

* `Value`: a value of a document
-/

namespace PageMerge.Toml

/-- A value of a document. -/
inductive Value where
  | text (value : String)
  | integer (value : Int)
  | real (value : Decimal.Number)
  | boolean (value : Bool)
  /-- A date, a time or both. -/
  | moment
  | array (items : List Value)
  | table (members : List (String × Value))

instance : Inhabited Value := ⟨.moment⟩

end PageMerge.Toml
