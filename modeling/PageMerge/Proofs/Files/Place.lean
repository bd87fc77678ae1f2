import Mathlib.Data.List.TakeWhile
import PageMerge.Files.Tree
import PageMerge.Proofs.Failure

/-!
# Places and what stays there

A path leads to one place, whatever stands in the tree, as long as it can be followed at all. Making
directories and writing a file takes no directory away, and no file but the one that is written. So
a file that was written can be read again after another one was written at another place.

## Main definitions

* `Path.place`: the place where a path leads
* `FileTree.Grows`: nothing is taken away but a file at one place
* `FileTree.KeepsDirectories`: no directory is taken away

## Main results

* `place_of_target`: a path that can be followed leads to its place
* `grows_writeFileWithin`: what writing a file leaves as it was
* `open?_of_writeFileWithin`: a file that was written is there, also after another one was written
-/

namespace PageMerge.Files

open PageMerge.Text (Bytes)

/-! ### Places -/

/-- The place where names lead from a place on. -/
def follow : Place → List String → Place
  | place, [] => place
  | place, name :: names =>
    if name = "" ∨ name = "." then follow place names
    else if name = ".." then follow (above place) names
    else follow (place ++ [name]) names

/-- The place where a path leads. -/
def Path.place (path : Path) : Place :=
  follow (if path.text.startsWith "/" then rootPlace else []) (FileTree.namesOf path)

theorem follow_append (names more : List String) : ∀ place,
    follow place (names ++ more) = follow (follow place names) more := by
  induction names with
  | nil => exact fun _ => rfl
  | cons name names ih =>
    intro place
    rw [List.cons_append, follow, follow]
    split
    · exact ih place
    split
    · exact ih (above place)
    · exact ih (place ++ [name])

/-- Empty names lead nowhere. -/
theorem follow_empty (names : List String) (h : ∀ name ∈ names, name = "") : ∀ place,
    follow place names = place := by
  induction names with
  | nil => exact fun _ => rfl
  | cons name names ih =>
    intro place
    rw [follow, if_pos (.inl (h name (List.mem_cons_self ..)))]
    exact ih (fun other hother => h other (List.mem_cons_of_mem _ hother)) place

namespace FileTree

/-- Names that can be followed lead to their place. -/
theorem follow_of_walk (tree : FileTree) (names : List String) : ∀ place destination,
    tree.walk place names = .ok destination → follow place names = destination := by
  induction names with
  | nil =>
    intro place destination h
    exact Except.ok.inj h
  | cons name names ih =>
    intro place destination h
    rw [walk] at h
    rw [follow]
    split at h
    · rename_i hidle
      rw [if_pos hidle]
      exact ih _ _ h
    rename_i hidle
    rw [if_neg hidle]
    split at h
    · rename_i hup
      rw [if_pos hup]
      exact ih _ _ h
    rename_i hup
    rw [if_neg hup]
    split at h
    · cases h
    split at h
    · cases h
    · cases h
    · exact ih _ _ h

/-- Names of which none is left lead nowhere. -/
theorem follow_of_dropWhile_nil {names : List String}
    (h : names.reverse.dropWhile (· == "") = []) (place : Place) : follow place names = place := by
  apply follow_empty
  intro name hname
  rw [List.dropWhile_eq_nil_iff] at h
  exact eq_of_beq (h name (List.mem_reverse.mpr hname))

/-- Names lead where the last one that is left leads from the place before it. -/
theorem follow_of_dropWhile_cons {names before : List String} {last : String}
    (h : names.reverse.dropWhile (· == "") = last :: before) (place : Place) :
    last ≠ "" ∧ follow place names = follow (follow place before.reverse) [last] := by
  have hsplit := List.takeWhile_append_dropWhile (p := (· == "")) (l := names.reverse)
  have hempty : ∀ name ∈ (names.reverse.takeWhile (· == "")).reverse, name = "" := by
    intro name hname
    have hmem : name ∈ names.reverse.takeWhile (· == "") := List.mem_reverse.mp hname
    have htrue := List.mem_takeWhile_imp hmem
    exact eq_of_beq htrue
  have hnames : names = before.reverse ++ [last] ++
      (names.reverse.takeWhile (· == "")).reverse := by
    have hreverse := congrArg List.reverse hsplit
    rw [h] at hreverse
    simpa using hreverse.symm
  constructor
  · rintro rfl
    have hhead := List.head?_dropWhile_not (· == "") names.reverse
    rw [h] at hhead
    cases hhead
  · rw [hnames, follow_append, follow_empty _ hempty, follow_append]

/-- A path that can be followed leads to its place. -/
theorem place_of_target {tree : FileTree} {path : Path} {target : Target}
    (h : tree.target path = .ok target) : target.place = path.place := by
  rw [FileTree.target] at h
  split at h
  · cases h
  split at h
  · cases h
  split at h
  · cases h
  dsimp only at h
  rw [Path.place]
  generalize (if path.text.startsWith "/" then rootPlace else []) = start at h ⊢
  split at h
  -- The path means the directory that it starts from.
  · rename_i hnone
    cases h
    exact (follow_of_dropWhile_nil hnone start).symm
  -- The last name is looked for in the directory that the names before it lead to.
  · rename_i last before hnames
    obtain ⟨hlast, hfollow⟩ := follow_of_dropWhile_cons hnames start
    obtain ⟨directory, hwalk, h⟩ := exists_of_bind_eq_ok h
    rw [hfollow, follow_of_walk tree _ _ _ hwalk, follow]
    split at h
    · rename_i hidle
      cases h
      rw [if_pos (.inr hidle)]
      rfl
    rename_i hidle
    rw [if_neg (not_or.mpr ⟨hlast, hidle⟩)]
    split at h
    · rename_i hup
      cases h
      rw [if_pos hup]
      rfl
    rename_i hup
    rw [if_neg hup]
    split at h
    · cases h
    · cases h
      rfl

/-! ### What is left as it was -/

/-- Nothing is taken away but a file at one place. -/
structure Grows (written : Place) (before after : FileTree) : Prop where
  directories : ∀ place, before.node? place = some .directory → after.node? place = some .directory
  files : ∀ place content, place ≠ written → before.node? place = some (.file content) →
    after.node? place = some (.file content)

namespace Grows

variable {written : Place} {first second third : FileTree}

theorem refl (written : Place) (tree : FileTree) : Grows written tree tree :=
  ⟨fun _ h => h, fun _ _ _ h => h⟩

theorem trans (h : Grows written first second) (h' : Grows written second third) :
    Grows written first third where
  directories place hplace := h'.directories place (h.directories place hplace)
  files place content hne hplace := h'.files place content hne (h.files place content hne hplace)

end Grows

/-- A place where no directory is can be taken. -/
theorem isFixed_of_node?_ne {tree : FileTree} {place : Place}
    (h : tree.node? place ≠ some .directory) : isFixed place = false := by
  by_contra hfixed
  rw [Bool.not_eq_false] at hfixed
  exact h (if_pos hfixed)

/-- Something new at a place where no directory is. -/
theorem grows_set {tree : FileTree} {place : Place} (hplace : tree.node? place ≠ some .directory)
    (node : Node) : Grows place tree (tree.set place node) := by
  have hfree := isFixed_of_node?_ne hplace
  constructor
  · intro other hother
    rw [node?_set tree hfree, if_neg]
    · exact hother
    · rintro rfl
      exact hplace hother
  · intro other content hne hother
    rw [node?_set tree hfree, if_neg hne]
    exact hother

/-- A directory is made where nothing is. -/
theorem grows_makeDirectory {tree made : FileTree} {path : Path}
    (h : tree.makeDirectory path = .ok made) (written : Place) : Grows written tree made := by
  rw [makeDirectory] at h
  obtain ⟨target, _, h⟩ := exists_of_bind_eq_ok h
  split at h
  · cases h
  · rename_i hnone
    cases h
    have hfree : tree.node? target.place ≠ some .directory := by
      rw [hnone]
      exact nofun
    -- No file was there, so that none is written over.
    have hgrows := grows_set hfree .directory
    refine ⟨hgrows.directories, fun place content _ hplace => ?_⟩
    refine hgrows.files place content ?_ hplace
    rintro rfl
    rw [hnone] at hplace
    cases hplace

/-- Making directories takes nothing away, even if it ends with an error. -/
theorem grows_makeFirst (tree : FileTree) (written : Place) (paths : List Path) :
    Grows written tree (tree.makeFirst paths).2 := by
  induction paths with
  | nil => exact Grows.refl written tree
  | cons path above ih =>
    rw [makeFirst]
    split
    · exact Grows.refl written tree
    cases hmade : tree.makeDirectory path with
    | ok made => exact grows_makeDirectory hmade written
    | error e =>
      cases e with
      | notFound =>
        dsimp only
        cases habove : tree.makeFirst above with
        | mk result base =>
          rw [habove] at ih
          cases result with
          | error e => exact ih
          | ok _ =>
            dsimp only
            cases hagain : base.makeDirectory path with
            | ok made => exact ih.trans (grows_makeDirectory hagain written)
            | error e => exact ih
      | _ => exact Grows.refl written tree

theorem grows_makeDirectoryOf (tree : FileTree) (path : Path) (written : Place) :
    Grows written tree (tree.makeDirectoryOf path).2 := by
  rw [makeDirectoryOf]
  split
  · exact Grows.refl written tree
  · exact grows_makeFirst tree written _

/-- A file is written where no directory is. -/
theorem exists_target_of_writeFile {tree written : FileTree} {path : Path} {content : Bytes}
    (h : tree.writeFile path content = .ok written) : ∃ target, tree.target path = .ok target ∧
      target.slash = false ∧ tree.node? target.place ≠ some .directory ∧
      written = tree.set target.place (.file content) := by
  rw [writeFile] at h
  obtain ⟨target, htarget, h⟩ := exists_of_bind_eq_ok h
  split at h
  · cases h
  rename_i hname
  split at h
  · cases h
  · rename_i hdirectory
    cases h
    exact ⟨target, htarget, by simpa using (not_or.mp hname).1, hdirectory, rfl⟩

theorem grows_writeFile {tree written : FileTree} {path : Path} {content : Bytes}
    (h : tree.writeFile path content = .ok written) : Grows path.place tree written := by
  obtain ⟨target, htarget, _, hdirectory, rfl⟩ := exists_target_of_writeFile h
  rw [← place_of_target htarget]
  exact grows_set hdirectory _

/-- Writing a file takes nothing away but what was at its place, even if it ends with an error. -/
theorem grows_writeFileWithin (tree : FileTree) (path : Path) (content : Bytes) :
    Grows path.place tree (tree.writeFileWithin path content).2 := by
  have hgrows := grows_makeDirectoryOf tree path path.place
  rw [writeFileWithin]
  generalize tree.makeDirectoryOf path = made at hgrows ⊢
  obtain ⟨result, base⟩ := made
  cases result with
  | error e => exact hgrows
  | ok _ =>
    dsimp only at hgrows ⊢
    cases hwritten : base.writeFile path content with
    | error e => exact hgrows
    | ok written => exact hgrows.trans (grows_writeFile hwritten)

/-! ### Reading again -/

/-- The directories of a tree are directories of the other one. -/
def KeepsDirectories (before after : FileTree) : Prop := ∀ place,
  before.node? place = some .directory → after.node? place = some .directory

section Reading

variable {before after : FileTree} (h : KeepsDirectories before after)

include h

/-- Names that can be followed can still be followed. -/
theorem walk_of_keeps (names : List String) : ∀ start destination,
      before.walk start names = .ok destination → after.walk start names = .ok destination := by
  induction names with
  | nil => exact fun _ _ h => h
  | cons name names ih =>
    intro start destination hwalk
    rw [walk] at hwalk ⊢
    split at hwalk
    · rename_i hidle
      rw [if_pos hidle]
      exact ih _ _ hwalk
    rename_i hidle
    rw [if_neg hidle]
    split at hwalk
    · rename_i hup
      rw [if_pos hup]
      exact ih _ _ hwalk
    rename_i hup
    rw [if_neg hup]
    split at hwalk
    · cases hwalk
    rename_i hlong
    rw [if_neg hlong]
    split at hwalk
    · cases hwalk
    · cases hwalk
    · rename_i hdirectory
      rw [h _ hdirectory]
      exact ih _ _ hwalk

/-- A path that can be followed can still be followed. -/
theorem target_of_keeps {path : Path} {target : Target}
    (htarget : before.target path = .ok target) : after.target path = .ok target := by
  rw [FileTree.target] at htarget ⊢
  split at htarget
  · cases htarget
  rename_i hzero
  rw [if_neg hzero]
  split at htarget
  · cases htarget
  rename_i hempty
  rw [if_neg hempty]
  split at htarget
  · cases htarget
  rename_i hlong
  rw [if_neg hlong]
  dsimp only at htarget ⊢
  split at htarget
  · exact htarget
  · obtain ⟨directory, hwalk, htarget⟩ := exists_of_bind_eq_ok htarget
    rw [walk_of_keeps h _ _ _ hwalk]
    exact htarget

/-- A file that can be opened still can, if it stands where it stood. -/
theorem open?_of_keeps {path : Path} {content : Bytes}
    (hfile : before.node? path.place = some (.file content) →
      after.node? path.place = some (.file content))
    (hopen : before.open? path = .ok (.file content)) :
    after.open? path = .ok (.file content) := by
  rw [open?] at hopen
  obtain ⟨target, htarget, hopen⟩ := exists_of_bind_eq_ok hopen
  rw [← place_of_target htarget] at hfile
  rw [open?, target_of_keeps h htarget, ok_bind]
  split at hopen
  · cases hopen
  · rename_i held hnode
    obtain rfl : held = content := by
      split at hopen
      · cases hopen
      · exact Node.file.inj (Except.ok.inj hopen)
    rw [hfile hnode]
    exact hopen
  · cases hopen

end Reading

/-- A file is written after its directory was made. -/
theorem exists_of_writeFileWithin {tree written : FileTree} {path : Path} {content : Bytes}
    (h : tree.writeFileWithin path content = (.ok (), written)) :
    ∃ base : FileTree, base.writeFile path content = .ok written := by
  rw [writeFileWithin] at h
  generalize tree.makeDirectoryOf path = made at h
  obtain ⟨result, base⟩ := made
  cases result with
  | error e => cases h
  | ok _ =>
    refine ⟨base, ?_⟩
    dsimp only at h
    cases hwritten : base.writeFile path content with
    | error e =>
      rw [hwritten] at h
      cases h
    | ok tree' =>
      rw [hwritten] at h
      exact congrArg Except.ok (congrArg Prod.snd h)

/-- A file that was just written is there. -/
theorem open?_written {tree written : FileTree} {path : Path} {content : Bytes}
    (h : tree.writeFileWithin path content = (.ok (), written)) :
    written.open? path = .ok (.file content) := by
  obtain ⟨base, hwritten⟩ := exists_of_writeFileWithin h
  obtain ⟨target, htarget, hslash, hdirectory, heq⟩ := exists_target_of_writeFile hwritten
  have hnode : written.node? target.place = some (.file content) := by
    rw [heq, node?_set base (isFixed_of_node?_ne hdirectory), if_pos rfl]
  rw [open?, target_of_keeps (grows_writeFile hwritten).directories htarget, ok_bind, hnode, hslash]
  rfl

/-- A file that can be opened still can, unless it stood at the place that was written. -/
theorem open?_of_grows {before after : FileTree} {path : Path} {content : Bytes} {other : Place}
    (h : before.open? path = .ok (.file content)) (hgrows : Grows other before after)
    (hne : path.place ≠ other) : after.open? path = .ok (.file content) :=
  open?_of_keeps hgrows.directories (hgrows.files _ _ hne) h

/-- A file that was written is there, also after another one was written at another place. -/
theorem open?_of_writeFileWithin {tree written after : FileTree} {path : Path} {content : Bytes}
    {other : Place} (h : tree.writeFileWithin path content = (.ok (), written))
    (hgrows : Grows other written after) (hne : path.place ≠ other) :
    after.open? path = .ok (.file content) :=
  open?_of_grows (open?_written h) hgrows hne

/-- A file has one content. -/
theorem content_unique {tree : FileTree} {path : Path} {content other : Bytes}
    (h : tree.open? path = .ok (.file content)) (h' : tree.open? path = .ok (.file other)) :
    content = other :=
  Node.file.inj (Except.ok.inj (h.symm.trans h'))

/-- What can be opened at a path stands at its place. -/
theorem node?_of_open? {tree : FileTree} {path : Path} {node : Node}
    (h : tree.open? path = .ok node) : tree.node? path.place = some node := by
  rw [open?] at h
  obtain ⟨target, htarget, h⟩ := exists_of_bind_eq_ok h
  rw [← place_of_target htarget]
  split at h
  · cases h
  · rename_i content hnode
    split at h
    · cases h
    · rw [hnode, Except.ok.inj h]
  · rename_i hnode
    rw [hnode, Except.ok.inj h]

end FileTree

end PageMerge.Files
