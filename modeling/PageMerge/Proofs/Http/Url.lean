import PageMerge.Http.Url
import PageMerge.Proofs.Text.Utf8

/-!
# URLs that are continued

A URL that ends in a slash stays a URL when a text is appended to it, whatever the text is: the
slash ends the host, the query and the fragment do not, and nothing that is cut off at the edges of
the whole text is a slash. So the requests for the pages of a server go to this server.

## Main definitions

* `cleaned`: the characters of a text that its URL is read from
* `Url.SameServer`: two URLs name the same server

## Main results

* `cleaned_append`: what is cut off from a text with a slash in it
* `scheme?_append`, `Url.ofServer?_append`: scheme and host of a URL that is continued
* `Url.parse?_append`: a URL that is continued goes to the same server
-/

namespace PageMerge.Http

/-! ### Up to a character -/

section Stops

variable {α : Type} {p : α → Bool}

theorem takeWhile_append_cons {stop : α} (h : p stop = false) (before after : List α) :
    (before ++ stop :: after).takeWhile p = before.takeWhile p := by
  induction before with
  | nil => rw [List.nil_append, List.takeWhile_cons_of_neg (by simp [h]), List.takeWhile_nil]
  | cons c before ih =>
    rw [List.cons_append, List.takeWhile_cons, List.takeWhile_cons, ih]

theorem dropWhile_append_cons {stop : α} (h : p stop = false) (before after : List α) :
    (before ++ stop :: after).dropWhile p = before.dropWhile p ++ stop :: after := by
  induction before with
  | nil => rw [List.nil_append, List.dropWhile_cons_of_neg (by simp [h])]; rfl
  | cons c before ih =>
    rw [List.cons_append, List.dropWhile_cons, List.dropWhile_cons, ih]
    split <;> rfl

end Stops

/-! ### Texts without their edges -/

/-- A character that is cut off at the edges of a URL. -/
def isEdge (c : Char) : Bool := c.toNat ≤ 0x20

/-- A character that is not taken out of a URL wherever it stands. -/
def isKept (c : Char) : Bool := c != '\t' && c != '\n' && c != '\r'

/-- The characters of a text that its URL is read from. -/
def cleaned (cs : List Char) : List Char :=
  ((cs.dropWhile isEdge).reverse.dropWhile isEdge).reverse.filter isKept

/-- What stands before a slash is read in the same way, whatever stands behind the slash. -/
theorem cleaned_append (before after : List Char) :
    cleaned (before ++ '/' :: after) = (before.dropWhile isEdge).filter isKept ++
      '/' :: (after.reverse.dropWhile isEdge).reverse.filter isKept := by
  have hslash : isEdge '/' = false := by decide
  have hkept : isKept '/' = true := by decide
  rw [cleaned, dropWhile_append_cons hslash, List.reverse_append, List.reverse_cons,
    List.append_assoc, List.singleton_append, dropWhile_append_cons hslash, List.reverse_append,
    List.reverse_cons, List.reverse_reverse, List.append_assoc, List.singleton_append,
    List.filter_append, List.filter_cons_of_pos hkept]

/-! ### Scheme and host -/

/-- The scheme ends before any slash. -/
theorem scheme?_append {before after rest : List Char} {scheme : String}
    (h : scheme? (before ++ '/' :: after) = some (scheme, rest)) :
    ∃ behind, rest = behind ++ '/' :: after ∧
      ∀ other, scheme? (before ++ '/' :: other) = some (scheme, behind ++ '/' :: other) := by
  simp only [scheme?] at h ⊢
  generalize hname : (fun c : Char => c.isAlphanum || c == '+' || c == '-' || c == '.') = isName
    at h ⊢
  have hslash : isName '/' = false := by
    rw [← hname]
    decide
  simp only [takeWhile_append_cons hslash, dropWhile_append_cons hslash] at h ⊢
  split at h
  · rename_i c name behind hfirst hbehind
    rw [hfirst]
    cases hdrop : before.dropWhile isName with
    | nil =>
      rw [hdrop] at hbehind
      exact absurd (List.cons.inj hbehind).1 (by decide)
    | cons colon middle =>
      rw [hdrop] at hbehind
      obtain ⟨rfl, rfl⟩ := List.cons.inj hbehind
      obtain ⟨halpha, heq⟩ := Option.ite_none_right_eq_some.mp h
      obtain ⟨rfl, rfl⟩ := Prod.mk.inj (Option.some.inj heq)
      exact ⟨middle, rfl, fun other => if_pos halpha⟩
  · cases h

/-- No server has an empty name. -/
theorem authority?_nil (usual : Nat) : authority? (some usual) [] = none := by
  have hhost : host? [] = none := by
    rw [host?, percentDecode, Text.Utf8.decode?, ← Text.Utf8.encode_empty, Text.Utf8.decode_encode]
    rfl
  rw [authority?]
  change (host? [] >>= _) = none
  rw [hhost]
  rfl

/-- The host of a text and what stands behind it: what comes before any query and fragment, without
the slashes that announce the host. -/
def serverPart (cs : List Char) : List Char :=
  ((cs.takeWhile fun c => c != '?' && c != '#').map fun c => if c = '\\' then '/' else c).dropWhile
    (· == '/')

/-- A host that is named before a slash is the same, whatever stands behind the slash. -/
theorem takeWhile_serverPart {before : List Char}
    (h : (serverPart (before ++ ['/'])).takeWhile (· != '/') ≠ []) (other : List Char) :
    (serverPart (before ++ '/' :: other)).takeWhile (· != '/') =
      (serverPart (before ++ ['/'])).takeWhile (· != '/') := by
  rw [serverPart, serverPart, List.takeWhile_append, List.takeWhile_append] at *
  split at h
  · rename_i hall
    rw [if_pos hall, if_pos hall]
    simp only [List.takeWhile_cons, List.map_append, List.dropWhile_append] at h ⊢
    -- The slashes that announce the host do not go on up to this slash.
    split at h
    · exact absurd rfl h
    · rename_i hhost
      rw [if_neg hhost, if_neg hhost]
      exact (takeWhile_append_cons rfl _ _).trans (takeWhile_append_cons rfl _ _).symm
  · rename_i hmark
    rw [if_neg hmark, if_neg hmark]

namespace Url

/-- A URL of a server that ends in a slash is one of the same server when it is continued. -/
theorem ofServer?_append {scheme : String} {usual : Nat} {before : List Char} {url : Url}
    (h : ofServer? scheme usual (before ++ ['/']) = some url) (other : List Char) :
    ∃ path, ofServer? scheme usual (before ++ '/' :: other) = some { url with path } := by
  have hpart : ∀ cs, ofServer? scheme usual cs =
      (authority? (some usual) ((serverPart cs).takeWhile (· != '/'))).map fun named =>
        let path := normalPath ((serverPart cs).dropWhile (· != '/'))
        ⟨scheme, some named.1, named.2, path, none, none⟩ := by
    intro cs
    rw [ofServer?]
    change Option.bind (authority? (some usual) ((serverPart cs).takeWhile (· != '/'))) _ = _
    cases authority? (some usual) ((serverPart cs).takeWhile (· != '/')) <;> rfl
  rw [hpart] at h ⊢
  -- No server has an empty name, so the name of this one ends before the last slash.
  have hnamed : (serverPart (before ++ ['/'])).takeWhile (· != '/') ≠ [] := by
    intro hnil
    rw [hnil, authority?_nil] at h
    cases h
  rw [takeWhile_serverPart hnamed]
  obtain ⟨⟨host, port⟩, hauthority, hurl⟩ := Option.map_eq_some_iff.mp h
  rw [hauthority, ← hurl]
  exact ⟨_, rfl⟩

/-- The URL of a scheme from what stands after its colon, without query and fragment. -/
def ofRest? (scheme : String) (rest : List Char) : Option Url :=
  match serverPorts.lookup scheme with
  | some usual => ofServer? scheme usual rest
  | none => ofOther? scheme rest

/-- A URL with the query and the fragment that stand after the colon of its scheme. -/
def withMarks (url : Url) (rest : List Char) : Url :=
  { url with
    query := (after? '?' (rest.takeWhile (· != '#'))).map (percentEncode querySpecial)
    fragment := (after? '#' rest).map (percentEncode fragmentSpecial) }

theorem parse?_eq (text : String) :
    parse? text = (scheme? (cleaned text.toList)).bind fun found =>
      (ofRest? found.1 found.2).map fun url => url.withMarks found.2 := by
  rw [parse?]
  change Option.bind (scheme? (cleaned text.toList)) _ = _
  congr 1
  funext ⟨scheme, rest⟩
  dsimp only [ofRest?]
  cases serverPorts.lookup scheme with
  | some usual =>
    change Option.bind (ofServer? scheme usual rest) _ = Option.map _ (ofServer? scheme usual rest)
    cases ofServer? scheme usual rest <;> rfl
  | none =>
    change Option.bind (ofOther? scheme rest) _ = Option.map _ (ofOther? scheme rest)
    cases ofOther? scheme rest <;> rfl

theorem scheme_of_ofOther? {scheme : String} {rest : List Char} {url : Url}
    (h : ofOther? scheme rest = some url) : url.scheme = scheme := by
  rw [ofOther?] at h
  split at h
  · obtain ⟨_, -, h⟩ := Option.bind_eq_some_iff.mp h
    rw [← Option.some.inj h]
  · rw [← Option.some.inj h]
  · rw [← Option.some.inj h]

/-- A URL that requests can go to is one of a scheme that always names a server. -/
theorem exists_of_isWeb {scheme : String} {rest : List Char} {url : Url}
    (h : ofRest? scheme rest = some url) (hweb : url.isWeb = true) :
    ∃ usual, serverPorts.lookup scheme = some usual ∧ ofServer? scheme usual rest = some url := by
  rw [ofRest?] at h
  split at h
  · rename_i usual husual
    exact ⟨usual, husual, h⟩
  · -- The schemes of requests are among those with a usual port.
    rename_i hother
    rw [isWeb, scheme_of_ofOther? h, Bool.or_eq_true, beq_iff_eq, beq_iff_eq] at hweb
    rcases hweb with rfl | rfl <;> cases hother

/-- Two URLs name the same server. -/
def SameServer (first second : Url) : Prop :=
  first.scheme = second.scheme ∧ first.host = second.host ∧ first.port = second.port

/-- A URL for requests that ends in a slash is a URL of the same server when it is continued. -/
theorem parse?_append {base : String} {url : Url} (hslash : base.endsWith "/" = true)
    (h : parse? base = some url) (hweb : url.isWeb = true) (id : String) :
    ∃ page, parse? (base ++ id) = some page ∧ page.SameServer url := by
  rw [String.endsWith, String.Slice.endsWith_string_iff, String.copy_toSlice] at hslash
  obtain ⟨before, hbase⟩ := hslash
  have hbase : base.toList = before ++ ['/'] := hbase.symm
  -- What is cut off behind the slash depends on `id`, and what is cut off before it does not.
  rw [parse?_eq, hbase, cleaned_append] at h
  rw [parse?_eq, String.toList_append, hbase, List.append_assoc, List.singleton_append,
    cleaned_append]
  obtain ⟨⟨scheme, rest⟩, hscheme, h⟩ := Option.bind_eq_some_iff.mp h
  obtain ⟨behind, rfl, hcontinued⟩ := scheme?_append hscheme
  obtain ⟨server, hserver, rfl⟩ := Option.map_eq_some_iff.mp h
  obtain ⟨usual, husual, hserver⟩ := exists_of_isWeb hserver hweb
  obtain ⟨path, hpath⟩ := ofServer?_append hserver
    ((id.toList.reverse.dropWhile isEdge).reverse.filter isKept)
  rw [hcontinued, Option.bind_some, ofRest?, husual]
  dsimp only
  rw [hpath, Option.map_some]
  exact ⟨_, rfl, rfl, rfl, rfl⟩

end Url

end PageMerge.Http
