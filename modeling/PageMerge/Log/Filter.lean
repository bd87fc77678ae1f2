import PageMerge.Log
import PageMerge.Text.Blank

/-!
# Filters of the log

Which entries are kept. A filter is a list of directives, separated by commas, that may be followed
by a slash and a text that every kept entry contains. A directive is a threshold for everything, a
name with a threshold for the parts of the program whose names start with it, or a name alone, which
keeps everything there. The longest name that fits decides; where none fits, nothing is kept.

A filter without a directive keeps errors.

## Main definitions

* `Threshold`: from which level on entries are kept
* `Filter.parse`: the filter of a text
* `Filter.keeps`: whether an entry is kept
-/

namespace PageMerge.Log

/-- From which level on entries are kept. -/
inductive Threshold where
  | nothing
  | errors
  | warnings
  | notices
  | everything
  deriving DecidableEq, Repr

/-- The levels from a threshold on. -/
def Threshold.admits : Threshold → Level → Bool
  | .nothing, _ => false
  | .errors, level => level == .error
  | .warnings, level => level == .error || level == .warning
  | .notices, level => level != .debug
  | .everything, _ => true

/-- The threshold of a name, in capital or small letters. -/
def Threshold.ofName? (name : String) : Option Threshold :=
  match name.toLower with
  | "off" => some .nothing
  | "error" => some .errors
  | "warn" => some .warnings
  | "info" => some .notices
  | "debug" => some .everything
  | "trace" => some .everything
  | _ => none

/-- A threshold for a part of the program, or for all of it. -/
structure Directive where
  part : Option String
  threshold : Threshold
  deriving DecidableEq, Repr

/-- Which entries are kept. -/
structure Filter where
  directives : List Directive
  /-- A text that every kept entry contains. -/
  containing : Option String
  deriving DecidableEq, Repr

/-- The name of the program. -/
def programName : String := "uploader"

namespace Filter

/-- Keeps everything but the details. -/
def standard : Filter := ⟨[⟨none, .notices⟩], none⟩

/-- The pieces of a text between separators. -/
def pieces (separator : Char) (text : String) : List String :=
  (text.toList.splitOn separator).map String.ofList

/-- The directive of a text without blanks around it. A text that is none is passed over. -/
def directive? (text : String) : Option Directive :=
  match pieces '=' text with
  | [word] =>
    match Threshold.ofName? word with
    | some threshold => some ⟨none, threshold⟩
    | none => some ⟨some word, .everything⟩
  | [part, word] =>
    let word := Text.trim word
    if word.isEmpty then some ⟨some part, .everything⟩
    else (Threshold.ofName? word).map fun threshold => ⟨some part, threshold⟩
  | _ => none

/-- The directives of a text. Of two directives for the same part the later one counts. -/
def directives? (text : String) : List Directive :=
  let words := ((pieces ',' text).map Text.trim).filter fun word => !word.isEmpty
  (words.filterMap directive?).foldl
    (fun known next => known.filter (·.part != next.part) ++ [next]) []

/-- The filter of a text. Two slashes make it mean nothing. -/
def parse (text : String) : Filter :=
  let (directives, containing) := match pieces '/' text with
    | [head] => (directives? head, none)
    | [head, containing] => (directives? head, some containing)
    | _ => ([], none)
  ⟨if directives.isEmpty then [⟨none, .errors⟩] else directives, containing⟩

/-- How many bytes of a name a directive is about. -/
def weight (directive : Directive) : Nat := (directive.part.getD "").utf8ByteSize

/-- The directive that is about the program: the one with the longest name that fits. -/
def deciding? (filter : Filter) : Option Directive :=
  let fitting := filter.directives.filter fun directive =>
    programName.startsWith (directive.part.getD "")
  fitting.foldl (fun best next =>
    match best with
    | some other => if weight other ≤ weight next then some next else best
    | none => some next) none

/-- Whether an entry is kept. -/
def keeps (filter : Filter) (entry : Entry) : Bool :=
  match filter.deciding? with
  | none => false
  | some directive =>
    directive.threshold.admits entry.level &&
      (filter.containing.all fun part => (entry.text.splitOn part).length > 1 || part.isEmpty)

end Filter

end PageMerge.Log
