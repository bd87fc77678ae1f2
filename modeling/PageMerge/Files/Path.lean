/-!
# Paths

A path is a text of names separated by slashes, relative to the working directory unless it starts
with a slash. Empty names and the name `.` mean the directory before them, except that a `.` at the
very start of a path counts as a name when the path is taken apart.

## Main definitions

* `Path.join`: a path below a directory
* `Path.parent?`: the path without its last name
* `Path.ancestors`: a path, its parent, and so on

-/

namespace PageMerge.Files

/-- The place of a file or directory as it is written. -/
structure Path where
  text : String
  deriving DecidableEq, Repr

namespace Path

instance : Coe String Path := ⟨Path.mk⟩

/-- The path of a name below a directory. An absolute path stands for itself, and the empty path is
the working directory. -/
def join (directory name : Path) : Path :=
  if name.text.startsWith "/" then name
  else if directory.text.isEmpty then name
  else if directory.text.endsWith "/" then ⟨directory.text ++ name.text⟩
  else ⟨directory.text ++ "/" ++ name.text⟩

/-- A name that means the directory before it. -/
def isIdle (name : List Char) : Bool := name == [] || name == ['.']

/-- The characters at the start of a path that are no separate names: the slash of an absolute path
or a leading `.`. -/
def lead : List Char → List Char
  | '/' :: _ => ['/']
  | ['.'] => ['.']
  | '.' :: '/' :: _ => ['.']
  | _ => []

/-- The names of a path, the last one first, without the idle ones at its end. -/
def namesReversed (body : List Char) : List (List Char) :=
  (body.splitOn '/').reverse.dropWhile isIdle

/-- The names as they stand in a path, given with the last one first. -/
def unite (names : List (List Char)) : List Char := List.intercalate ['/'] names.reverse

/-- The path without its last name; the root and the empty path have no last name. -/
def parent? (path : Path) : Option Path :=
  let chars := path.text.toList
  let start := lead chars
  match namesReversed (chars.drop start.length) with
  | [] => if start = ['.'] then some ⟨""⟩ else none
  | _ :: names => some ⟨String.ofList (start ++ unite (names.dropWhile isIdle))⟩

/-- The path and the paths above it, up to a given number. -/
def ancestorsUpTo : Nat → Path → List Path
  | 0, path => [path]
  | count + 1, path =>
    match path.parent? with
    | none => [path]
    | some parent => path :: ancestorsUpTo count parent

/-- The path, its parent, the parent of that, and so on. There are no more than characters. -/
def ancestors (path : Path) : List Path := ancestorsUpTo path.text.length path

/-- The directory that a file at the path needs, unless it is the working directory. -/
def directory? (path : Path) : Option Path :=
  path.parent?.filter fun parent => !parent.text.isEmpty

end Path

end PageMerge.Files
