import PageMerge.Files.Tree
import PageMerge.Template.Marks

/-!
# Problems of a configuration

Why a configuration cannot be used. Every error has a number that stands for it in the log next to
its wording.

## Main definitions

* `StructureProblem`: why a file has not the structure of a configuration
* `ConfigProblem`: why a configuration cannot be used
-/

namespace PageMerge.Config

open PageMerge.Files (IoError Path)
open PageMerge.Template (MarksError)

/-- Why a file has not the structure of a configuration. -/
inductive StructureProblem where
  /-- It cannot be read. -/
  | unreadable (path : Path) (cause : IoError)
  /-- It is no TOML document. -/
  | notToml
  /-- A value is not of the kind that its field needs. -/
  | invalidType (found expected : String)
  /-- A value is of the right kind but out of the range of its field. -/
  | invalidValue (found expected : String)
  /-- A list that stands for a section is too short. -/
  | invalidLength (length : Nat) (expected : String)
  /-- A field or a section is missing. -/
  | missingField (name : String)
  deriving DecidableEq, Repr

/-- The wording of a problem. -/
def StructureProblem.message : StructureProblem → String
  | .unreadable path cause => s!"{path.text}: {cause.message}"
  | .notToml => "the text is no TOML document"
  | .invalidType found expected => s!"invalid type: {found}, expected {expected}"
  | .invalidValue found expected => s!"invalid value: {found}, expected {expected}"
  | .invalidLength length expected => s!"invalid length {length}, expected {expected}"
  | .missingField name => s!"missing field `{name}`"

/-- Why a configuration cannot be used. -/
inductive ConfigProblem where
  | invalidStructure (problem : StructureProblem)
  | templateIdEmpty
  | templateIdNotNumeric (id : String)
  | marks (cause : MarksError)
  | uploadSpaceEmpty
  | parentPageIdNotNumeric (id : String)
  | dataCsvPathEmpty
  | dataCsvMissing (path : String)
  | delimiterEmpty
  | delimiterNotSingleChar (text : String)
  | idColumnHeaderEmpty
  | uploadWorkersZero
  | usernameEmpty
  | tokenEmpty
  | baseUrlEmpty
  | baseUrlNoTrailingSlash (url : String)
  deriving DecidableEq, Repr

namespace ConfigProblem

/-- The number of an error of the marks. -/
def marksId : MarksError → Nat
  | .placeholderEmpty => 16
  | .placeholderNotSingle _ => 17
  | .placeholderNotMark _ => 18
  | .equal => 19
  | .escapeEmpty => 20
  | .escapeNotSingle _ => 21
  | .escapeNotMark _ => 22

/-- The number that stands for the error in the log. -/
def id : ConfigProblem → Nat
  | .invalidStructure _ => 13
  | .templateIdEmpty => 14
  | .templateIdNotNumeric _ => 15
  | .marks cause => marksId cause
  | .uploadSpaceEmpty => 23
  | .parentPageIdNotNumeric _ => 25
  | .dataCsvPathEmpty => 26
  | .dataCsvMissing _ => 27
  | .delimiterEmpty => 28
  | .delimiterNotSingleChar _ => 29
  | .idColumnHeaderEmpty => 30
  | .uploadWorkersZero => 31
  | .usernameEmpty => 32
  | .tokenEmpty => 33
  | .baseUrlEmpty => 34
  | .baseUrlNoTrailingSlash _ => 35

/-- The wording of an error of the marks. -/
def marksMessage : MarksError → String
  | .placeholderEmpty => "The configured placeholder is empty"
  | .placeholderNotSingle text => s!"The configured placeholder '{text}' is no single character"
  | .placeholderNotMark c =>
    s!"The configured placeholder '{c}' must not be alphanumeric, whitespace, ., - or _"
  | .equal => "The configured placeholder character is the same one as the escape character"
  | .escapeEmpty => "The configured escape character is empty"
  | .escapeNotSingle text => s!"The configured escape character '{text}' is no single character"
  | .escapeNotMark c =>
    s!"The configured escape character '{c}' must not be alphanumeric, whitespace, ., - or _"

/-- The wording of the error. -/
def message : ConfigProblem → String
  | .invalidStructure problem =>
    s!"The config file has an invalid structure: {problem.message}"
  | .templateIdEmpty => "The configured template ID is empty"
  | .templateIdNotNumeric id => s!"The configured template ID '{id}' is not numeric"
  | .marks cause => marksMessage cause
  | .uploadSpaceEmpty => "The configured upload space is empty"
  | .parentPageIdNotNumeric id => s!"The configured upload parent page ID '{id}' is not numeric"
  | .dataCsvPathEmpty => "The configured data CSV path is empty"
  | .dataCsvMissing path => s!"The configured data CSV file '{path}' does not exist"
  | .delimiterEmpty => "The configured CSV delimiter is empty"
  | .delimiterNotSingleChar text =>
    s!"The configured CSV delimiter '{text}' is no single ASCII character"
  | .idColumnHeaderEmpty => "The configured CSV ID column header is empty"
  | .uploadWorkersZero => "The configured number of upload workers must be at least 1"
  | .usernameEmpty => "The configured username is empty"
  | .tokenEmpty => "The configured token is empty"
  | .baseUrlEmpty => "The configured base URL is empty"
  | .baseUrlNoTrailingSlash url => s!"The configured base URL '{url}' does not end with a slash '/'"

end ConfigProblem

end PageMerge.Config
