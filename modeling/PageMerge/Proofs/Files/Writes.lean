import PageMerge.Proofs.Files.Place

/-!
# What writing files changes

A file that is written replaces at most a file, and a directory is made only where nothing is.
Everything that stands at another place stays as it is, even if the writing ends with an error.

## Main definitions

* `Path.directories`: the places of the directories that a file at a path needs
* `FileTree.Writes`: what changes between two trees, and at which places

## Main results

* `Writes.trans`: changes after each other
* `writes_writeFileWithin`: writing a file changes its place and makes its directories
* `writes_of_writeFileWithin_error`: a file that is not written leaves at most directories
-/

namespace PageMerge.Files

open PageMerge.Text (Bytes)

/-- The places of the directories that a file at the path needs. -/
def Path.directories (path : Path) : List Place :=
  ((path.directory?.map Path.ancestors).getD []).map Path.place

namespace FileTree

/-- Between the trees, files were written at the first places and directories were made at the
second ones, and nothing else has changed. -/
def Writes (files directories : List Place) (before after : FileTree) : Prop := ∀ place,
  after.node? place = before.node? place ∨
  (place ∈ files ∧ before.node? place ≠ some .directory ∧
    ∃ content, after.node? place = some (.file content)) ∨
  (place ∈ directories ∧ before.node? place = none ∧ after.node? place = some .directory)

namespace Writes

variable {files directories : List Place} {first second third : FileTree}

theorem refl (files directories : List Place) (tree : FileTree) :
    Writes files directories tree tree :=
  fun _ => .inl rfl

theorem mono (h : Writes files directories first second) {files' directories' : List Place}
    (hfiles : files ⊆ files') (hdirectories : directories ⊆ directories') :
    Writes files' directories' first second := by
  intro place
  rcases h place with hsame | ⟨hfile, hwritten⟩ | ⟨hdirectory, hmade⟩
  · exact .inl hsame
  · exact .inr (.inl ⟨hfiles hfile, hwritten⟩)
  · exact .inr (.inr ⟨hdirectories hdirectory, hmade⟩)

theorem trans (h : Writes files directories first second)
    (h' : Writes files directories second third) : Writes files directories first third := by
  intro place
  rcases h place with hsame | ⟨hfile, hfree, content, hwritten⟩ | ⟨hdirectory, hnone, hmade⟩
  · rw [← hsame]
    exact h' place
  -- Where a file was written, no directory is made, but another file may be written.
  · rcases h' place with hsame' | ⟨_, _, content', hwritten'⟩ | ⟨_, hnone', _⟩
    · exact .inr (.inl ⟨hfile, hfree, content, hsame'.trans hwritten⟩)
    · exact .inr (.inl ⟨hfile, hfree, content', hwritten'⟩)
    · rw [hwritten] at hnone'
      cases hnone'
  -- Where a directory was made, nothing more can happen.
  · rcases h' place with hsame' | ⟨_, hfree', _⟩ | ⟨_, hnone', _⟩
    · exact .inr (.inr ⟨hdirectory, hnone, hsame'.trans hmade⟩)
    · exact absurd hmade hfree'
    · rw [hmade] at hnone'
      cases hnone'

/-- A file that stands where none was written was there before. -/
theorem file_of_not_mem (h : Writes files directories first second) {place : Place}
    (hplace : place ∉ files) {content : Bytes}
    (hfile : second.node? place = some (.file content)) :
    first.node? place = some (.file content) := by
  rcases h place with hsame | ⟨hmem, _⟩ | ⟨_, _, hmade⟩
  · rw [← hsame]
    exact hfile
  · exact absurd hmem hplace
  · rw [hmade] at hfile
    cases hfile

/-- A file that was there still stands where none was written. -/
theorem file_kept (h : Writes files directories first second) {place : Place}
    (hplace : place ∉ files) {content : Bytes}
    (hfile : first.node? place = some (.file content)) :
    second.node? place = some (.file content) := by
  rcases h place with hsame | ⟨hmem, _⟩ | ⟨_, hnone, _⟩
  · rw [hsame]
    exact hfile
  · exact absurd hmem hplace
  · rw [hnone] at hfile
    cases hfile

theorem keepsDirectories (h : Writes files directories first second) :
    KeepsDirectories first second := by
  intro place hplace
  rcases h place with hsame | ⟨_, hfree, _⟩ | ⟨_, hnone, _⟩
  · rw [hsame]
    exact hplace
  · exact absurd hplace hfree
  · rw [hnone] at hplace
    cases hplace

end Writes

/-! ### Directories -/

theorem writes_makeDirectory {tree made : FileTree} {path : Path}
    (h : tree.makeDirectory path = .ok made) : Writes [] [path.place] tree made := by
  rw [makeDirectory] at h
  obtain ⟨target, htarget, h⟩ := exists_of_bind_eq_ok h
  split at h
  · cases h
  · rename_i hnone
    cases h
    have hfree : tree.node? target.place ≠ some .directory := by
      rw [hnone]
      exact (Option.some_ne_none _).symm
    -- The place was free, and so the directory is the only thing that is new.
    intro place
    rw [node?_set tree (isFixed_of_node?_ne hfree)]
    by_cases hplace : place = target.place
    · subst hplace
      rw [if_pos rfl, place_of_target htarget]
      rw [place_of_target htarget] at hnone
      exact .inr (.inr ⟨List.mem_singleton.mpr rfl, hnone, rfl⟩)
    · exact .inl (if_neg hplace)

/-- Making directories takes nothing away, even if it ends with an error. -/
theorem writes_makeFirst (tree : FileTree) (paths : List Path) :
    Writes [] (paths.map Path.place) tree (tree.makeFirst paths).2 := by
  induction paths with
  | nil => exact Writes.refl _ _ tree
  | cons path above ih =>
    have hself : ∀ {base made : FileTree}, base.makeDirectory path = .ok made →
        Writes [] ((path :: above).map Path.place) base made := fun hmade =>
      (writes_makeDirectory hmade).mono (List.Subset.refl _) (by simp)
    have habove := ih.mono (List.Subset.refl _) (List.subset_cons_self path.place _)
    rw [makeFirst]
    split
    · exact Writes.refl _ _ tree
    cases hmade : tree.makeDirectory path with
    | ok made => exact hself hmade
    | error e =>
      cases e with
      | notFound =>
        -- The directories above come first, and what was made of them stays.
        dsimp only
        cases hbase : tree.makeFirst above with
        | mk result base =>
          rw [hbase] at habove
          cases result with
          | error e => exact habove
          | ok _ =>
            dsimp only
            cases hagain : base.makeDirectory path with
            | ok made => exact habove.trans (hself hagain)
            | error e => exact habove
      | _ => exact Writes.refl _ _ tree

theorem writes_makeDirectoryOf (tree : FileTree) (path : Path) :
    Writes [] path.directories tree (tree.makeDirectoryOf path).2 := by
  rw [makeDirectoryOf, Path.directories]
  cases path.directory? with
  | none => exact Writes.refl _ _ tree
  | some directory => exact writes_makeFirst tree directory.ancestors

/-! ### Files -/

theorem writes_writeFile {tree written : FileTree} {path : Path} {content : Bytes}
    (h : tree.writeFile path content = .ok written) : Writes [path.place] [] tree written := by
  obtain ⟨target, htarget, _, hdirectory, rfl⟩ := exists_target_of_writeFile h
  intro place
  rw [node?_set tree (isFixed_of_node?_ne hdirectory), ← place_of_target htarget]
  by_cases hplace : place = target.place
  · subst hplace
    rw [if_pos rfl]
    exact .inr (.inl ⟨List.mem_singleton.mpr rfl, hdirectory, content, rfl⟩)
  · exact .inl (if_neg hplace)

/-- Writing a file changes its place and makes the directories that it needs, and nothing else, even
if it ends with an error. -/
theorem writes_writeFileWithin (tree : FileTree) (path : Path) (content : Bytes) :
    Writes [path.place] path.directories tree (tree.writeFileWithin path content).2 := by
  have hmade := (writes_makeDirectoryOf tree path).mono (List.nil_subset [path.place])
    (List.Subset.refl _)
  rw [writeFileWithin]
  generalize tree.makeDirectoryOf path = made at hmade ⊢
  obtain ⟨result, base⟩ := made
  -- Directories that were made stay, even if the file is not written after that.
  cases result with
  | error e => exact hmade
  | ok _ =>
    dsimp only at hmade ⊢
    cases hwritten : base.writeFile path content with
    | error e => exact hmade
    | ok written =>
      exact hmade.trans
        ((writes_writeFile hwritten).mono (List.Subset.refl _) (List.nil_subset _))

/-- A file that is not written leaves at most the directories that it needs. -/
theorem writes_of_writeFileWithin_error {tree after : FileTree} {path : Path} {content : Bytes}
    {cause : IoError} (h : tree.writeFileWithin path content = (.error cause, after)) :
    Writes [] path.directories tree after := by
  have hmade := writes_makeDirectoryOf tree path
  rw [writeFileWithin] at h
  generalize tree.makeDirectoryOf path = made at h hmade
  obtain ⟨result, base⟩ := made
  cases result with
  | error e =>
    obtain rfl : base = after := congrArg Prod.snd h
    exact hmade
  | ok _ =>
    dsimp only at h
    cases hwritten : base.writeFile path content with
    | error e =>
      rw [hwritten] at h
      obtain rfl : base = after := congrArg Prod.snd h
      exact hmade
    | ok written =>
      rw [hwritten] at h
      cases h

end FileTree

end PageMerge.Files
