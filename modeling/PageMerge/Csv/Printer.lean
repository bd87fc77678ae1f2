import PageMerge.Csv.Record

/-!
# Writing CSV

A record is a line that ends with a line feed. A field is put between quotes, with every quote in
it doubled, if it holds a delimiter, a quote or a line break; a record that would be an empty line
is written as a pair of quotes, so that it is not skipped when it is read.

## Main definitions

* `writeField`, `writeRecord`: the bytes of a field and of a record
-/

namespace PageMerge.Csv

open PageMerge.Text (Bytes)

/-- A field that must stand between quotes. -/
def needsQuotes (delimiter : UInt8) (field : Bytes) : Bool :=
  field.any fun b => b == delimiter || b == quote || isBreak b

/-- A field with every quote doubled. -/
def doubleQuotes : Bytes → Bytes
  | [] => []
  | b :: rest => if b = quote then quote :: quote :: doubleQuotes rest else b :: doubleQuotes rest

/-- A field as it stands in a record. -/
def writeField (delimiter : UInt8) (field : Bytes) : Bytes :=
  if needsQuotes delimiter field then quote :: (doubleQuotes field ++ [quote]) else field

/-- Fields with delimiters between them. -/
def joinFields (delimiter : UInt8) (fields : List Bytes) : Bytes :=
  List.intercalate [delimiter] (fields.map (writeField delimiter))

/-- The line of a record. -/
def writeRecord (delimiter : UInt8) (fields : List Bytes) : Bytes :=
  let line := joinFields delimiter fields
  (if line.isEmpty then [quote, quote] else line) ++ [0x0A]

end PageMerge.Csv
