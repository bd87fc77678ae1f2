import PageMerge.Proofs.Files.Place

/-!
# Names in paths

A path that is made of a directory and a name leads to that name in the directory. Taking the last
name off a path is the way back, so that two files named in the same directory stand at the same
place only if they have the same name.

## Main definitions

* `IsName`: a name of something in a directory

## Main results

* `Path.place_join`: the place of a name below a directory
* `Path.exists_parent`: the parent of a path that ends with a name
-/

namespace PageMerge.Files

/-- A name of something in a directory, and not of the directory itself or the one above it. -/
def IsName (name : String) : Prop := name ≠ "" ∧ name ≠ "." ∧ name ≠ ".."

instance (name : String) : Decidable (IsName name) := inferInstanceAs (Decidable (_ ∧ _ ∧ _))

theorem follow_singleton {name : String} (h : IsName name) (place : Place) :
    follow place [name] = place ++ [name] := by
  obtain ⟨hempty, hidle, hup⟩ := h
  rw [follow, if_neg (not_or.mpr ⟨hempty, hidle⟩), if_neg hup]
  rfl

/-- Idle names lead nowhere. -/
theorem follow_idle {names : List (List Char)} (h : ∀ name ∈ names, Path.isIdle name) :
    ∀ place, follow place (names.map String.ofList) = place := by
  induction names with
  | nil => exact fun _ => rfl
  | cons name names ih =>
    intro place
    rw [List.forall_mem_cons] at h
    have hname := h.1
    rw [Path.isIdle, Bool.or_eq_true, beq_iff_eq, beq_iff_eq] at hname
    have hidle : String.ofList name = "" ∨ String.ofList name = "." := by
      rcases hname with rfl | rfl
      · exact .inl rfl
      · exact .inr rfl
    rw [List.map_cons, follow, if_pos hidle]
    exact ih h.2 place

/-! ### Names between slashes -/

section Slashes

theorem slash_not_mem_of_mem_splitOn (chars : List Char) : ∀ name ∈ chars.splitOn '/',
    '/' ∉ name := by
  induction chars with
  | nil => simp
  | cons c chars ih =>
    rw [List.splitOn_cons_eq_if_modifyHead]
    split
    · simpa using ih
    · rename_i hc
      obtain ⟨first, rest, hsplit⟩ :=
        List.exists_cons_of_ne_nil (List.splitOn_ne_nil '/' chars)
      rw [beq_iff_eq] at hc
      rw [hsplit] at ih ⊢
      simpa [Ne.symm hc] using ih

theorem intercalate_append {first rest : List (List Char)} (hfirst : first ≠ [])
    (hrest : rest ≠ []) : ['/'].intercalate (first ++ rest) =
      ['/'].intercalate first ++ '/' :: ['/'].intercalate rest := by
  induction first with
  | nil => exact absurd rfl hfirst
  | cons name first ih =>
    rcases eq_or_ne first [] with rfl | hne
    · rw [List.singleton_append, List.intercalate_cons_of_ne_nil hrest,
        List.intercalate_singleton, List.append_assoc, List.singleton_append]
    · have hmore : first ++ rest ≠ [] := List.append_ne_nil_of_left_ne_nil hne rest
      rw [List.cons_append, List.intercalate_cons_of_ne_nil hmore, ih hne,
        List.intercalate_cons_of_ne_nil hne, List.append_assoc (name ++ ['/'])]

/-- The first of some names, as they stand in a text before the others. -/
theorem exists_of_splitOn_append {chars : List Char} {first rest : List (List Char)}
    (h : chars.splitOn '/' = first ++ rest) (hfirst : first ≠ []) (hrest : rest ≠ []) :
    (['/'].intercalate first).splitOn '/' = first ∧
      ∃ left, chars = ['/'].intercalate first ++ '/' :: left := by
  constructor
  · apply List.splitOn_intercalate '/' _ hfirst
    intro name hname
    apply slash_not_mem_of_mem_splitOn chars
    rw [h]
    exact List.mem_append_left rest hname
  · refine ⟨['/'].intercalate rest, ?_⟩
    rw [← intercalate_append hfirst hrest, ← h, List.intercalate_splitOn]

end Slashes

namespace FileTree

theorem namesOf_append (front back : String) :
    namesOf ⟨front ++ "/" ++ back⟩ = namesOf ⟨front⟩ ++ namesOf ⟨back⟩ := by
  simp [namesOf, List.splitOn_append_cons_self]

theorem namesOf_eq_singleton {name : String} (h : '/' ∉ name.toList) : namesOf ⟨name⟩ = [name] := by
  simp [namesOf, List.splitOn_eq_singleton h]

end FileTree

namespace Path

open FileTree (namesOf namesOf_append namesOf_eq_singleton)

/-! ### A name below a directory -/

theorem startsWith_append {front : String} (h : front ≠ "") (back : String) :
    (front ++ back).startsWith "/" = front.startsWith "/" := by
  have hne : front.toList ≠ [] := by simpa using h
  obtain ⟨c, chars, hfront⟩ := List.exists_cons_of_ne_nil hne
  rw [Bool.eq_iff_iff]
  simp [hfront]

/-- A name below a directory leads to the name in that directory. -/
theorem place_join (directory : Path) {name : String} (h : '/' ∉ name.toList) :
    (directory.join name).place = follow directory.place [name] := by
  have hrelative : name.startsWith "/" = false := by
    rw [String.startsWith_string_eq_false_iff]
    intro hstart
    exact h (hstart.subset (by simp))
  rw [join, if_neg (by simp [hrelative])]
  obtain ⟨text⟩ := directory
  dsimp only
  by_cases hempty : text = ""
  · subst hempty
    rw [if_pos (by simp), place, place, hrelative, namesOf_eq_singleton h]
    rfl
  rw [if_neg (by simpa using hempty)]
  split
  -- The slash at the end of the directory stands before the name.
  · rename_i hslash
    rw [String.endsWith, String.Slice.endsWith_string_iff, String.copy_toSlice] at hslash
    obtain ⟨front, hfront⟩ := hslash
    obtain rfl : text = String.ofList front ++ "/" := by
      rw [← String.toList_inj, ← hfront]
      simp
    rw [place, place, startsWith_append hempty, namesOf_append, namesOf_eq_singleton h]
    have hnames : namesOf ⟨String.ofList front ++ "/"⟩ = namesOf ⟨String.ofList front⟩ ++ [""] := by
      simp [namesOf, List.splitOn_append_cons_self]
    rw [hnames, follow_append, follow_append]
    rfl
  · rw [place, place, String.append_assoc, startsWith_append hempty, ← String.append_assoc,
      namesOf_append, follow_append, namesOf_eq_singleton h]

/-! ### The directory of a path -/

/-- A path without a lead starts with a name. -/
def StartsWithName (chars : List Char) : Prop :=
  chars.head? ≠ some '/' ∧ chars ≠ ['.'] ∧ ¬ ['.', '/'] <+: chars

/-- The leads of paths. -/
theorem lead_cases (chars : List Char) :
    (∃ body, chars = '/' :: body ∧ lead chars = ['/']) ∨ (chars = ['.'] ∧ lead chars = ['.']) ∨
    (∃ rest, chars = '.' :: '/' :: rest ∧ lead chars = ['.']) ∨
    (StartsWithName chars ∧ lead chars = []) := by
  by_cases hslash : ∃ body, chars = '/' :: body
  · obtain ⟨body, rfl⟩ := hslash
    exact .inl ⟨body, rfl, rfl⟩
  by_cases hdot : chars = ['.']
  · subst hdot
    exact .inr (.inl ⟨rfl, rfl⟩)
  by_cases hhere : ∃ rest, chars = '.' :: '/' :: rest
  · obtain ⟨rest, rfl⟩ := hhere
    exact .inr (.inr (.inl ⟨rest, rfl, rfl⟩))
  refine .inr (.inr (.inr ⟨⟨?_, hdot, ?_⟩, ?_⟩))
  · intro hhead
    obtain ⟨body, rfl⟩ := List.head?_eq_some_iff.mp hhead
    exact hslash ⟨body, rfl⟩
  · rintro ⟨rest, rfl⟩
    exact hhere ⟨rest, rfl⟩
  · rw [lead]
    · exact fun body h => hslash ⟨body, h⟩
    · exact hdot
    · exact fun rest h => hhere ⟨rest, h⟩

/-- Where the names after the lead of a path start from. -/
def startOf (start : List Char) : Place := if start = ['/'] then rootPlace else []

/-- The place of a path, by its lead and the names after it. -/
theorem place_eq (path : Path) :
    let start := lead path.text.toList
    path.place = follow (startOf start)
      (((path.text.toList.drop start.length).splitOn '/').map String.ofList) := by
  obtain ⟨text⟩ := path
  have hroot : text.startsWith "/" = (text.toList.head? == some '/') := by
    rw [Bool.eq_iff_iff, String.startsWith_string_iff, beq_iff_eq]
    exact List.singleton_prefix_iff_head?_eq_some
  simp only [place, namesOf, hroot]
  generalize text.toList = chars
  rcases lead_cases chars with
    ⟨body, rfl, hlead⟩ | ⟨rfl, hlead⟩ | ⟨rest, rfl, hlead⟩ | ⟨hname, hlead⟩
  · rw [hlead]
    simp [startOf, List.splitOn_cons_eq_if_modifyHead, follow]
  · rw [hlead]
    simp [startOf, List.splitOn_cons_eq_if_modifyHead, follow]
  · rw [hlead]
    simp [startOf, List.splitOn_cons_eq_if_modifyHead, follow]
  · rw [hlead, if_neg (by simpa using hname.1)]
    rfl

/-- A path goes on after its lead. -/
theorem exists_eq_lead_append (chars : List Char) : ∃ body, chars = lead chars ++ body := by
  rcases lead_cases chars with
    ⟨body, h, hlead⟩ | ⟨h, hlead⟩ | ⟨rest, h, hlead⟩ | ⟨_, hlead⟩
  · exact ⟨body, by rw [hlead, h]; rfl⟩
  · exact ⟨[], by rw [hlead, h]; rfl⟩
  · exact ⟨'/' :: rest, by rw [hlead, h]; rfl⟩
  · exact ⟨chars, by rw [hlead]; rfl⟩

/-- The lead of a path stays if the path is cut before its first name or at a slash. -/
theorem lead_append {chars front body : List Char} (h : chars = lead chars ++ body)
    (hcut : front = [] ∨ ∃ rest, body = front ++ '/' :: rest) :
    lead (lead chars ++ front) = lead chars := by
  rcases lead_cases chars with
    ⟨_, _, hlead⟩ | ⟨hdot, hlead⟩ | ⟨rest, hhere, hlead⟩ | ⟨hname, hlead⟩
  · rw [hlead]
    rfl
  · rw [hlead]
    rcases hcut with rfl | ⟨rest, rfl⟩
    · rfl
    · rw [hlead, hdot] at h
      simp at h
  · rw [hlead]
    rcases hcut with rfl | ⟨left, rfl⟩
    · rfl
    · rw [hlead, hhere] at h
      cases front with
      | nil => rfl
      | cons c front =>
        obtain rfl : '/' = c := by simpa using (List.cons.inj (List.cons.inj h).2).1
        rfl
  · rw [hlead, List.nil_append]
    rcases hcut with rfl | ⟨left, rfl⟩
    · rfl
    · rw [hlead, List.nil_append] at h
      subst h
      rcases lead_cases front with
        ⟨_, rfl, _⟩ | ⟨rfl, _⟩ | ⟨rest, rfl, _⟩ | ⟨_, hlead⟩
      · simp [StartsWithName] at hname
      · simp [StartsWithName] at hname
      · simp [StartsWithName] at hname
      · exact hlead

theorem getLast?_cons_splitOn (name chars : List Char) :
    (name :: chars.splitOn '/').getLast? = (chars.splitOn '/').getLast? := by
  obtain ⟨first, rest, hsplit⟩ := List.exists_cons_of_ne_nil (List.splitOn_ne_nil '/' chars)
  rw [hsplit, List.getLast?_cons_cons]

/-- The last name of a path is the last one after its lead. -/
theorem getLast?_splitOn_body {chars body name : List Char} (hbody : chars = lead chars ++ body)
    (hname : name ≠ ['.']) (h : (chars.splitOn '/').getLast? = some name) :
    (body.splitOn '/').getLast? = some name := by
  rcases lead_cases chars with
    ⟨_, _, hlead⟩ | ⟨rfl, hlead⟩ | ⟨rest, rfl, hlead⟩ | ⟨_, hlead⟩
  · rw [hbody, hlead, List.singleton_append, List.splitOn_cons_eq_if_modifyHead,
      if_pos (beq_self_eq_true '/'), getLast?_cons_splitOn] at h
    exact h
  · simp [List.splitOn_cons_eq_if_modifyHead, Ne.symm hname] at h
  -- The name before the first slash is none of those after the lead, but it is not the last one.
  · rw [hlead, List.singleton_append] at hbody
    obtain rfl := (List.cons.inj hbody).2
    have hdot : ('.' :: '/' :: rest).splitOn '/' = ['.'] :: rest.splitOn '/' := by
      simp [List.splitOn_cons_eq_if_modifyHead]
    rw [hdot, getLast?_cons_splitOn] at h
    rw [List.splitOn_cons_eq_if_modifyHead, if_pos (beq_self_eq_true '/'), getLast?_cons_splitOn]
    exact h
  · rw [hlead, List.nil_append] at hbody
    rw [← hbody]
    exact h

/-- The directory of a path whose names are, after its lead, `kept`, then idle ones and a last
one. -/
theorem place_united {chars body : List Char} (hbody : chars = lead chars ++ body)
    {kept rest : List (List Char)} (hsplit : body.splitOn '/' = kept ++ rest) (hrest : rest ≠ []) :
    place ⟨String.ofList (lead chars ++ ['/'].intercalate kept)⟩ =
      follow (startOf (lead chars)) (kept.map String.ofList) := by
  rw [place_eq, String.toList_ofList]
  rcases eq_or_ne kept [] with rfl | hkept
  · rw [List.intercalate_nil, lead_append hbody (.inl rfl), List.drop_left]
    rfl
  · obtain ⟨hunited, hcut⟩ := exists_of_splitOn_append hsplit hkept hrest
    rw [lead_append hbody (.inr hcut), List.drop_left, hunited]

/-- A path that ends with a name leads to that name in the place of its parent. -/
theorem exists_parent {path : Path} {name : String} (hname : IsName name)
    (h : (namesOf path).getLast? = some name) :
    ∃ directory, path.parent? = some directory ∧ path.place = directory.place ++ [name] := by
  obtain ⟨body, hbody⟩ := exists_eq_lead_append path.text.toList
  have hdrop : path.text.toList.drop (lead path.text.toList).length = body :=
    (congrArg _ hbody).trans List.drop_left
  have hidle : isIdle name.toList = false := by
    rw [isIdle, Bool.or_eq_false_iff, beq_eq_false_iff_ne, beq_eq_false_iff_ne]
    exact ⟨fun he => hname.1 (String.toList_eq_nil_iff.mp he),
      fun he => hname.2.1 (String.toList_inj.mp he)⟩
  have hlast : (path.text.toList.splitOn '/').getLast? = some name.toList := by
    rw [namesOf, List.getLast?_map, Option.map_eq_some_iff] at h
    obtain ⟨chars, hchars, rfl⟩ := h
    rw [hchars, String.toList_ofList]
  have hlast := getLast?_splitOn_body hbody (by rintro he; rw [he] at hidle; cases hidle) hlast
  obtain ⟨before, hbefore⟩ := List.getLast?_eq_some_iff.mp hlast
  -- The idle names before the last one are taken off with it.
  let kept := (before.reverse.dropWhile isIdle).reverse
  let idle := (before.reverse.takeWhile isIdle).reverse
  have hkept : before = kept ++ idle := by
    rw [← List.reverse_append, List.takeWhile_append_dropWhile, List.reverse_reverse]
  have hskip : ∀ chars ∈ idle, isIdle chars := fun chars hchars =>
    List.mem_takeWhile_imp (List.mem_reverse.mp hchars)
  have hparent : path.parent? =
      some ⟨String.ofList (lead path.text.toList ++ ['/'].intercalate kept)⟩ := by
    have hnames : namesReversed body = name.toList :: before.reverse := by
      rw [namesReversed, hbefore, List.reverse_append, List.reverse_singleton,
        List.singleton_append, List.dropWhile_cons_of_neg (by simp [hidle])]
    rw [parent?]
    simp only [hdrop, hnames]
    rfl
  refine ⟨_, hparent, ?_⟩
  rw [hkept, List.append_assoc] at hbefore
  rw [place_united hbody hbefore (by simp), place_eq, hdrop, hbefore, List.map_append,
    follow_append, List.map_append, follow_append, follow_idle hskip, List.map_singleton,
    String.ofList_toList, follow_singleton hname]

end Path

/-! ### Names of files -/

/-- A file is written under a name. -/
theorem FileTree.exists_name_of_writeFile {tree written : FileTree} {path : Path}
    {content : Text.Bytes} (h : tree.writeFile path content = .ok written) :
    ∃ name, IsName name ∧ (namesOf path).getLast? = some name := by
  rw [writeFile] at h
  obtain ⟨target, htarget, h⟩ := exists_of_bind_eq_ok h
  split at h
  · cases h
  rename_i hname
  obtain ⟨hslash, hname⟩ := not_or.mp hname
  rw [FileTree.target] at htarget
  split at htarget
  · cases htarget
  split at htarget
  · cases htarget
  split at htarget
  · cases htarget
  dsimp only at htarget
  split at htarget
  · cases htarget
    exact absurd rfl hname
  · rename_i last before hnames
    obtain ⟨hempty, _⟩ := follow_of_dropWhile_cons hnames []
    obtain ⟨directory, _, htarget⟩ := exists_of_bind_eq_ok htarget
    split at htarget
    · cases htarget
      exact absurd rfl hname
    rename_i hidle
    split at htarget
    · cases htarget
      exact absurd rfl hname
    rename_i hup
    split at htarget
    · cases htarget
    cases htarget
    refine ⟨last, ⟨hempty, hidle, hup⟩, ?_⟩
    -- No empty name stands behind the last one, as the path does not end with a slash.
    obtain ⟨final, hfinal⟩ := Option.isSome_iff_exists.mp
      (List.getLast?_isSome.mpr (by simp [namesOf] : namesOf path ≠ []))
    have hne : final ≠ "" := by
      rintro rfl
      exact hslash (by simp [hfinal])
    rw [hfinal]
    rw [List.getLast?_eq_head?_reverse] at hfinal
    obtain ⟨rest, hreverse⟩ := List.head?_eq_some_iff.mp hfinal
    rw [hreverse, List.dropWhile_cons_of_neg (by simpa using hne)] at hnames
    exact congrArg some (List.cons.inj hnames).1

end PageMerge.Files
