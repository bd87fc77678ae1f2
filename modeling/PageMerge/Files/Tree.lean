import PageMerge.Files.Path
import PageMerge.Text.Utf8

/-!
# File trees

The files and directories that a run sees, as a value: a list of places with what stands there. A
place is a list of names from the working directory on; names that lead above it come first as
`..`, and an absolute place starts with the name `/`. The working directory, the directories above
it and the root are always there.

Paths are followed name by name: every name before the last one must be a directory.

## Main definitions

* `IoError`: why a file could not be used
* `FileTree`: files and directories
* `FileTree.open?`, `FileTree.read`, `FileTree.writeFile`: single files
* `FileTree.makeDirectories`: a directory with the missing ones above it
* `FileTree.files`, `FileTree.changes`: all files, and what is new since an earlier tree

## Main results

* `FileTree.node?_set`: a place holds what was put there last
-/

namespace PageMerge.Files

open PageMerge.Text (Bytes)

/-- Why a file or directory could not be used. -/
inductive IoError where
  | notFound
  | alreadyExists
  | notADirectory
  | isADirectory
  | nameTooLong
  | directoryNotEmpty
  | zeroInName
  | noRoot
  | notText
  | addressNotAvailable
  deriving DecidableEq, Repr

/-- The wording of an error. -/
def IoError.message : IoError → String
  | .notFound => "No such file or directory (os error 2)"
  | .alreadyExists => "File exists (os error 17)"
  | .notADirectory => "Not a directory (os error 20)"
  | .isADirectory => "Is a directory (os error 21)"
  | .nameTooLong => "File name too long (os error 36)"
  | .directoryNotEmpty => "Directory not empty (os error 39)"
  | .zeroInName => "file name contained an unexpected NUL byte"
  | .noRoot => "failed to create whole tree"
  | .notText => "stream did not contain valid UTF-8"
  | .addressNotAvailable => "Cannot assign requested address (os error 99)"

/-- A place: the names that lead to it from the working directory. -/
abbrev Place := List String

/-- What stands at a place. -/
inductive Node where
  | file (content : Bytes)
  | directory
  deriving DecidableEq, Repr

/-- The places that are taken, each with what stands there. -/
structure FileTree where
  nodes : List (Place × Node)
  deriving Inhabited, Repr

/-- The place of the root. -/
def rootPlace : Place := ["/"]

/-- The place above a place. -/
def above (place : Place) : Place :=
  if place = rootPlace then rootPlace
  else match place.getLast? with
    | none => [".."]
    | some ".." => place ++ [".."]
    | some _ => place.dropLast

/-- A place that is always a directory. -/
def isFixed (place : Place) : Bool := place == rootPlace || place.all (· == "..")

/-- The longest name, in bytes. -/
def nameLimit : Nat := 255

/-- The length, in bytes, from which on a path is too long. -/
def pathLimit : Nat := 4096

/-- Where a path leads: a directory, and the name of something in it unless the path means the
directory itself. -/
structure Target where
  directory : Place
  name : Option String
  /-- The path ends with a slash, so that it can only mean a directory. -/
  slash : Bool

/-- The place where a path leads. -/
def Target.place (target : Target) : Place :=
  match target.name with
  | none => target.directory
  | some name => target.directory ++ [name]

namespace FileTree

/-- A tree with an empty working directory. -/
def empty : FileTree := ⟨[]⟩

/-- What stands at a place. -/
def node? (tree : FileTree) (place : Place) : Option Node :=
  if isFixed place then some .directory else tree.nodes.lookup place

/-- Puts something at a place. -/
def set (tree : FileTree) (place : Place) (node : Node) : FileTree :=
  ⟨(place, node) :: tree.nodes.filter fun (other, _) => other != place⟩

/-- Takes away what stands at a place and below it. -/
def clear (tree : FileTree) (place : Place) : FileTree :=
  ⟨tree.nodes.filter fun (other, _) => !place.isPrefixOf other⟩

/-- Follows names from a directory on. -/
def walk (tree : FileTree) : Place → List String → Except IoError Place
  | place, [] => .ok place
  | place, name :: names =>
    if name = "" ∨ name = "." then tree.walk place names
    else if name = ".." then tree.walk (above place) names
    else if nameLimit < name.utf8ByteSize then .error .nameTooLong
    else match tree.node? (place ++ [name]) with
      | none => .error .notFound
      | some (.file _) => .error .notADirectory
      | some .directory => tree.walk (place ++ [name]) names

/-- The names of a path between its slashes. -/
def namesOf (path : Path) : List String := (path.text.toList.splitOn '/').map String.ofList

/-- Where a path leads. -/
def target (tree : FileTree) (path : Path) : Except IoError Target :=
  if path.text.toList.contains '\x00' then .error .zeroInName
  else if path.text.isEmpty then .error .notFound
  else if pathLimit ≤ path.text.utf8ByteSize then .error .nameTooLong
  else
    let names := namesOf path
    let start := if path.text.startsWith "/" then rootPlace else []
    let slash := names.getLast? == some ""
    match names.reverse.dropWhile (· == "") with
    | [] => .ok ⟨start, none, slash⟩
    | last :: before => do
      let directory ← tree.walk start before.reverse
      if last = "." then .ok ⟨directory, none, slash⟩
      else if last = ".." then .ok ⟨above directory, none, slash⟩
      else if nameLimit < last.utf8ByteSize then .error .nameTooLong
      else .ok ⟨directory, some last, slash⟩

/-- What stands where a path leads. -/
def open? (tree : FileTree) (path : Path) : Except IoError Node := do
  let target ← tree.target path
  match tree.node? target.place with
  | none => .error .notFound
  | some (.file content) => if target.slash then .error .notADirectory else .ok (.file content)
  | some .directory => .ok .directory

/-- The content of a file. -/
def read (tree : FileTree) (path : Path) : Except IoError Bytes := do
  match ← tree.open? path with
  | .file content => .ok content
  | .directory => .error .isADirectory

/-- The text of a file. -/
def readText (tree : FileTree) (path : Path) : Except IoError String := do
  match Text.Utf8.decode? (← tree.read path) with
  | some text => .ok text
  | none => .error .notText

/-- Whether a path leads to a file. -/
def isFile (tree : FileTree) (path : Path) : Bool :=
  match tree.open? path with
  | .ok (.file _) => true
  | _ => false

/-- Whether a path leads to a directory. -/
def isDirectory (tree : FileTree) (path : Path) : Bool :=
  match tree.open? path with
  | .ok .directory => true
  | _ => false

/-- Writes a file; it replaces the file that is there. -/
def writeFile (tree : FileTree) (path : Path) (content : Bytes) : Except IoError FileTree := do
  let target ← tree.target path
  if target.slash ∨ target.name.isNone then .error .isADirectory
  else match tree.node? target.place with
    | some .directory => .error .isADirectory
    | _ => .ok (tree.set target.place (.file content))

/-- Makes a directory where nothing is. -/
def makeDirectory (tree : FileTree) (path : Path) : Except IoError FileTree := do
  let target ← tree.target path
  match tree.node? target.place with
  | some _ => .error .alreadyExists
  | none => .ok (tree.set target.place .directory)

/-- Makes the directory of the first path, and before it, if there is no directory to make it in,
the directories of the paths after it. What was made before an error stays. -/
def makeFirst (tree : FileTree) : List Path → Except IoError Unit × FileTree
  | [] => (.error .noRoot, tree)
  | path :: above =>
    if path.text.isEmpty then (.ok (), tree)
    else match tree.makeDirectory path with
      | .ok made => (.ok (), made)
      | .error .notFound =>
        match tree.makeFirst above with
        | (.error e, base) => (.error e, base)
        | (.ok (), base) =>
          match base.makeDirectory path with
          | .ok made => (.ok (), made)
          | .error e => (if base.isDirectory path then .ok () else .error e, base)
      | .error e => (if tree.isDirectory path then .ok () else .error e, tree)

/-- Makes a directory and the missing ones above it. -/
def makeDirectories (tree : FileTree) (path : Path) : Except IoError Unit × FileTree :=
  tree.makeFirst path.ancestors

/-- Makes the directory that a file at the path needs. -/
def makeDirectoryOf (tree : FileTree) (path : Path) : Except IoError Unit × FileTree :=
  match path.directory? with
  | none => (.ok (), tree)
  | some directory => tree.makeDirectories directory

/-- Writes a file after making the directory that it needs. -/
def writeFileWithin (tree : FileTree) (path : Path) (content : Bytes) :
    Except IoError Unit × FileTree :=
  match tree.makeDirectoryOf path with
  | (.error e, tree) => (.error e, tree)
  | (.ok (), tree) =>
    match tree.writeFile path content with
    | .ok written => (.ok (), written)
    | .error e => (.error e, tree)

/-- Takes away a file, or a directory with all that is in it. -/
def remove (tree : FileTree) (path : Path) : Except IoError FileTree := do
  discard <| tree.open? path
  let target ← tree.target path
  .ok (tree.clear target.place)

/-- Moves a file, or a directory with all that is in it, to another path. -/
def rename (tree : FileTree) (source destination : Path) : Except IoError FileTree := do
  let node ← tree.open? source
  let source := (← tree.target source).place
  let destination := (← tree.target destination).place
  match node, tree.node? destination with
  | .file _, some .directory => .error .isADirectory
  | .directory, some (.file _) => .error .notADirectory
  | _, found =>
    let occupied := tree.nodes.any fun (place, _) =>
      destination.isPrefixOf place && place != destination
    if found = some .directory ∧ occupied ∧ source ≠ destination then .error .directoryNotEmpty
    else
      let moved := tree.nodes.filterMap fun (place, node) =>
        if source.isPrefixOf place then some (destination ++ place.drop source.length, node)
        else none
      .ok ⟨moved ++ ((tree.clear source).clear destination).nodes⟩

/-- The path of a place. -/
def pathOf : Place → String
  | "/" :: names => "/" ++ String.intercalate "/" names
  | names => String.intercalate "/" names

/-- The files below the working directory, by their paths from there. -/
def files (tree : FileTree) : List (String × Bytes) :=
  tree.nodes.filterMap fun (place, node) =>
    match place.head?, node with
    | some "..", _ => none
    | some "/", _ => none
    | _, .file content => some (pathOf place, content)
    | _, .directory => none

/-- What stands in the tree and did not stand in an earlier one, by its path. Directories come
before what is in them. -/
def changes (tree earlier : FileTree) : List (Path × Node) :=
  let changed := tree.nodes.filter fun (place, node) => earlier.node? place != some node
  let ordered := changed.mergeSort fun a b => decide (a.1.length ≤ b.1.length)
  ordered.map fun (place, node) => (⟨pathOf place⟩, node)

/-- A place holds what was put there last; every other place keeps what it holds. -/
theorem node?_set (tree : FileTree) {place : Place} (h : isFixed place = false) (node : Node)
    (other : Place) :
    (tree.set place node).node? other = if other = place then some node else tree.node? other := by
  unfold node? set
  by_cases heq : other = place
  · subst heq
    simp [h]
  · have hne : (other == place) = false := by simpa using heq
    simp only [List.lookup_cons, hne, heq, if_false]
    congr 1
    induction tree.nodes with
    | nil => rfl
    | cons entry rest ih =>
      obtain ⟨at_, held⟩ := entry
      by_cases hp : at_ = place
      · subst hp
        simp [List.lookup_cons, hne, ih]
      · have : (at_ != place) = true := by simpa using hp
        simp [this, List.lookup_cons, ih]

end FileTree

end PageMerge.Files
