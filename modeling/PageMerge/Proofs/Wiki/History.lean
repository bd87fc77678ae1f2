import Mathlib
import PageMerge.Proofs.Wiki.Memory

/-!
# Histories of a wiki in memory

Any number of clients work on one wiki: they look pages up, create pages, and overwrite a page by
naming the identifier and the version that they found. Pages are also added from outside, at a place
where another page may stand, and calls are made to fail. Whatever the order, a page that is
overwritten is the very page that was found: no change is lost.

This rests on two facts about what an operation does. An identifier is given once, and to one place
(`Numbered`), and a page that keeps its identifier is either as it was or at a later version
(`Follows`). So identifier and version together name one state of one page for all time.

## Main definitions

* `Operation`, `MemoryWiki.after`: what is done to a wiki, and the wiki after a history
* `PagesChange`: what an operation can do to the pages
* `Numbered`, `Follows`: the identifiers of one wiki, and the pages of a wiki later on
* `CountedTo`: a bound for the counter and the versions
* `NoLostUpdate`: overwriting a page is safe in a wiki, whatever happens next

## Main results

* `Operation.pagesChange_perform`: one operation keeps the pages, adds one or rewrites one
* `Follows.stands_between`: a page that is found again has not been changed in between
* `no_lost_update`: every history of an empty wiki
-/

namespace PageMerge.Wiki

/-- What a client asks a wiki to do, or what is done to it from outside. -/
inductive Operation where
  | add (key : PageKey) (content : String)
  | failOn (title : String) (stage : Upload.FailedCall)
  | fetchTemplate (id : String)
  | find (title space : String)
  | create (article : Article) (space : String) (parent : Option String)
  | update (found : PageVersion) (article : Article) (space : String)

/-- The wiki after one operation, whatever it answers. -/
def Operation.perform (wiki : MemoryWiki) : Operation → MemoryWiki
  | .add key content => wiki.addPage key content
  | .failOn title stage => wiki.injectFailure title stage
  | .fetchTemplate id => (wiki.fetchTemplate id).2
  | .find title space => (wiki.findPage title space).2
  | .create article space parent => (wiki.create article space parent).2
  | .update found article space => (wiki.update found article space).2

/-- The wiki after a history, the first operation first. -/
def MemoryWiki.after (wiki : MemoryWiki) (history : List Operation) : MemoryWiki :=
  history.foldl Operation.perform wiki

@[simp] theorem MemoryWiki.after_nil (wiki : MemoryWiki) : wiki.after [] = wiki := rfl

@[simp] theorem MemoryWiki.after_cons (wiki : MemoryWiki) (op : Operation)
    (history : List Operation) : wiki.after (op :: history) = (op.perform wiki).after history := rfl

theorem MemoryWiki.after_append (wiki : MemoryWiki) (history next : List Operation) :
    wiki.after (history ++ next) = (wiki.after history).after next :=
  List.foldl_append

/-! ### One operation -/

/-- The pages and the counter after an operation: they are as they were, or a new page with the
next identifier is put at some place, or the page at some place is there in its next version. -/
inductive PagesChange (before after : MemoryWiki) : Prop
  | kept (pages : after.pages = before.pages) (lastId : after.lastId = before.lastId)
  | added (key : PageKey) (content : String) (parent : Option String)
      (pages : after.pages = (before.putNew key content parent).pages)
      (lastId : after.lastId = before.lastId + 1)
  | rewritten (key : PageKey) (stored : MemoryPage) (content : String)
      (stands : before.page? key = some stored)
      (pages : after.pages = (before.put key
        { stored with version := stored.version + 1, content := content }).pages)
      (lastId : after.lastId = before.lastId)

theorem Operation.pagesChange_perform (wiki : MemoryWiki) (op : Operation) :
    PagesChange wiki (op.perform wiki) := by
  cases op with
  | add key content => exact .added key content none rfl rfl
  | failOn title stage => exact .kept rfl rfl
  | fetchTemplate id => exact .kept rfl rfl
  | find title space => exact .kept rfl rfl
  | create article space parent =>
    rcases wiki.create_cases article space parent with ⟨e, h⟩ | ⟨_, h⟩
    · rw [perform, h]
      exact .kept rfl rfl
    · rw [perform, h]
      exact .added ⟨space, article.title⟩ article.content parent rfl rfl
  | update found article space =>
    rcases wiki.update_cases found article space with ⟨e, h⟩ | ⟨stored, hstored, _, h⟩
    · rw [perform, h]
      exact .kept rfl rfl
    · rw [perform, h]
      exact .rewritten ⟨space, article.title⟩ stored article.content hstored rfl rfl

/-! ### Identifiers -/

section Identifiers

variable {wiki next : MemoryWiki}

theorem MemoryWiki.page?_congr (h : next.pages = wiki.pages) (key : PageKey) :
    next.page? key = wiki.page? key := by
  rw [page?, h, page?]

/-- The page at a place is one of the pages. -/
theorem MemoryWiki.mem_of_page? {key : PageKey} {page : MemoryPage}
    (h : wiki.page? key = some page) : (key, page) ∈ wiki.pages := by
  obtain ⟨front, back, hpages, _⟩ := List.lookup_eq_some_iff.mp h
  rw [hpages]
  exact List.mem_append_right front List.mem_cons_self

/-- Every page has an identifier of its own, a number that was counted, and a place of its own. -/
structure Numbered (wiki : MemoryWiki) : Prop where
  places : (wiki.pages.map Prod.fst).Nodup
  ids : (wiki.pages.map fun entry => entry.2.id).Nodup
  counted : ∀ entry ∈ wiki.pages, ∃ n ≤ wiki.lastId, entry.2.id = toString n

/-- Two places whose pages have one identifier are one place. -/
theorem Numbered.eq_of_id (hwiki : Numbered wiki) {key key' : PageKey} {page page' : MemoryPage}
    (h : wiki.page? key = some page) (h' : wiki.page? key' = some page')
    (hid : page.id = page'.id) : key = key' ∧ page = page' := by
  have hentry : (key, page) = (key', page') :=
    List.inj_on_of_nodup_map hwiki.ids (MemoryWiki.mem_of_page? h) (MemoryWiki.mem_of_page? h') hid
  exact Prod.mk.inj hentry

/-- A page whose identifier no other place has can be put anywhere. -/
theorem Numbered.put (hwiki : Numbered wiki) {key : PageKey} {page : MemoryPage} {n : Nat}
    (hlastId : wiki.lastId ≤ next.lastId) (hpages : next.pages = (wiki.put key page).pages)
    (hid : page.id = toString n) (hn : n ≤ next.lastId)
    (hfree : ∀ entry ∈ wiki.pages, entry.2.id = page.id → entry.1 = key) : Numbered next := by
  have hkept : (wiki.pages.filter fun entry => entry.1 != key).Sublist wiki.pages :=
    List.filter_sublist
  have hmem : ∀ entry ∈ wiki.pages.filter (fun entry => entry.1 != key),
      entry ∈ wiki.pages ∧ entry.1 ≠ key := by
    simp
  constructor
  -- The pages that are kept stand at other places, and so have other identifiers.
  · rw [hpages]
    refine List.nodup_cons.mpr ⟨?_, hwiki.places.sublist (hkept.map _)⟩
    intro hplace
    obtain ⟨entry, hentry, rfl⟩ := List.mem_map.mp hplace
    exact (hmem entry hentry).2 rfl
  · rw [hpages]
    refine List.nodup_cons.mpr ⟨?_, hwiki.ids.sublist (hkept.map _)⟩
    intro hplace
    obtain ⟨entry, hentry, heq⟩ := List.mem_map.mp hplace
    exact (hmem entry hentry).2 (hfree entry (hmem entry hentry).1 heq)
  · rw [hpages]
    intro entry hentry
    rcases List.mem_cons.mp hentry with rfl | hentry
    · exact ⟨n, hn, hid⟩
    · obtain ⟨m, hm, hcounted⟩ := hwiki.counted entry (hmem entry hentry).1
      exact ⟨m, hm.trans hlastId, hcounted⟩

theorem Numbered.change (hwiki : Numbered wiki) (h : PagesChange wiki next) : Numbered next := by
  cases h with
  | kept hpages hlastId =>
    constructor
    · rw [hpages]
      exact hwiki.places
    · rw [hpages]
      exact hwiki.ids
    · rw [hpages, hlastId]
      exact hwiki.counted
  | added key content parent hpages hlastId =>
    refine hwiki.put (n := wiki.lastId + 1) (by omega) hpages rfl (by omega) ?_
    -- the next number is larger than all that were counted
    intro entry hentry hid
    obtain ⟨m, hm, hcounted⟩ := hwiki.counted entry hentry
    have : m = wiki.lastId + 1 := Nat.repr_inj.mp (hcounted.symm.trans hid)
    omega
  | rewritten key stored content hstands hpages hlastId =>
    have hstored := MemoryWiki.mem_of_page? hstands
    obtain ⟨n, hn, hid⟩ := hwiki.counted _ hstored
    refine hwiki.put (by omega) hpages hid (by omega) ?_
    intro entry hentry hsame
    rw [List.inj_on_of_nodup_map hwiki.ids hentry hstored hsame]

theorem Numbered.after (hwiki : Numbered wiki) (history : List Operation) :
    Numbered (wiki.after history) := by
  induction history generalizing wiki with
  | nil => exact hwiki
  | cons op history ih => exact ih (hwiki.change (op.pagesChange_perform wiki))

theorem numbered_empty (template : Option TemplatePage) : Numbered (.empty template) :=
  ⟨List.nodup_nil, List.nodup_nil, fun _ h => absurd h List.not_mem_nil⟩

end Identifiers

/-! ### Counters -/

/-- The counter of identifiers and all versions are at most a number. -/
def CountedTo (bound : Nat) (wiki : MemoryWiki) : Prop :=
  wiki.lastId ≤ bound ∧ ∀ entry ∈ wiki.pages, entry.2.version ≤ bound

/-- An operation adds at most one to the counter, and to one version. -/
theorem CountedTo.change {bound : Nat} {wiki after : MemoryWiki} (hwiki : CountedTo bound wiki)
    (h : PagesChange wiki after) : CountedTo (bound + 1) after := by
  obtain ⟨hcount, hversions⟩ := hwiki
  have hold : ∀ {key page} {entry : PageKey × MemoryPage}, page.version ≤ bound + 1 →
      entry ∈ (wiki.put key page).pages → entry.2.version ≤ bound + 1 := by
    intro key page entry hpage hentry
    rcases List.mem_cons.mp hentry with rfl | hentry
    · exact hpage
    · exact (hversions entry (List.mem_of_mem_filter hentry)).trans (Nat.le_succ bound)
  cases h with
  | kept hpages hlastId =>
    rw [CountedTo, hpages, hlastId]
    exact ⟨by omega, fun entry hentry => (hversions entry hentry).trans (Nat.le_succ bound)⟩
  | added key content parent hpages hlastId =>
    rw [CountedTo, hpages, hlastId]
    exact ⟨by omega, fun entry => hold (Nat.le_add_left 1 bound)⟩
  | rewritten key stored content hstands hpages hlastId =>
    have hstored : stored.version ≤ bound := hversions _ (MemoryWiki.mem_of_page? hstands)
    rw [CountedTo, hpages, hlastId]
    exact ⟨by omega, fun entry => hold (Nat.succ_le_succ hstored)⟩

theorem CountedTo.after {bound : Nat} {wiki : MemoryWiki} (hwiki : CountedTo bound wiki)
    (history : List Operation) : CountedTo (bound + history.length) (wiki.after history) := by
  induction history generalizing wiki bound with
  | nil => exact hwiki
  | cons op history ih =>
    rw [MemoryWiki.after_cons, List.length_cons, Nat.add_comm history.length, ← Nat.add_assoc]
    exact ih (hwiki.change (op.pagesChange_perform wiki))

/-! ### Pages later on -/

/-- The page is as it was, or it has the same identifier and a later version. -/
def MemoryPage.Continues (old new : MemoryPage) : Prop :=
  new = old ∨ new.id = old.id ∧ old.version < new.version

namespace MemoryPage.Continues

variable {old middle new : MemoryPage}

theorem id_eq (h : old.Continues new) : new.id = old.id := by
  rcases h with rfl | ⟨hid, _⟩
  · rfl
  · exact hid

theorem version_le (h : old.Continues new) : old.version ≤ new.version := by
  rcases h with rfl | ⟨_, hlt⟩
  · exact le_rfl
  · exact hlt.le

theorem eq_of_version (h : old.Continues new) (hversion : new.version ≤ old.version) :
    new = old := by
  rcases h with heq | ⟨_, hlt⟩
  · exact heq
  · omega

theorem trans (h : old.Continues middle) (h' : middle.Continues new) : old.Continues new := by
  rcases h' with rfl | ⟨hid, hlt⟩
  · exact h
  · exact .inr ⟨hid.trans h.id_eq, h.version_le.trans_lt hlt⟩

end MemoryPage.Continues

/-- The wiki later on: each of its pages continues the one that stood at its place, or got an
identifier that was not counted yet. -/
structure Follows (before after : MemoryWiki) : Prop where
  lastId : before.lastId ≤ after.lastId
  pages : ∀ key new, after.page? key = some new →
    (∃ old, before.page? key = some old ∧ old.Continues new) ∨
      ∃ n, before.lastId < n ∧ new.id = toString n

namespace Follows

variable {first second third : MemoryWiki}

theorem refl (wiki : MemoryWiki) : Follows wiki wiki :=
  ⟨le_rfl, fun _ new h => .inl ⟨new, h, .inl rfl⟩⟩

theorem trans (h : Follows first second) (h' : Follows second third) : Follows first third := by
  refine ⟨h.lastId.trans h'.lastId, ?_⟩
  -- A page may be replaced twice; then it has an identifier that was new the first time as well.
  intro key new hnew
  rcases h'.pages key new hnew with ⟨middle, hmiddle, hcontinues⟩ | ⟨n, hn, hid⟩
  · rcases h.pages key middle hmiddle with ⟨old, hold, hcontinues'⟩ | ⟨n, hn, hid⟩
    · exact .inl ⟨old, hold, hcontinues'.trans hcontinues⟩
    · exact .inr ⟨n, hn, hcontinues.id_eq.trans hid⟩
  · exact .inr ⟨n, h.lastId.trans_lt hn, hid⟩

theorem change (h : PagesChange first second) : Follows first second := by
  cases h with
  | kept hpages hlastId =>
    refine ⟨hlastId.ge, fun key new hnew => .inl ⟨new, ?_, .inl rfl⟩⟩
    rw [← MemoryWiki.page?_congr hpages key, hnew]
  | added key content parent hpages hlastId =>
    refine ⟨by omega, ?_⟩
    intro other new hnew
    rw [MemoryWiki.page?_congr hpages, MemoryWiki.putNew, MemoryWiki.page?_put] at hnew
    split at hnew
    · cases hnew
      exact .inr ⟨first.lastId + 1, by omega, rfl⟩
    · exact .inl ⟨new, hnew, .inl rfl⟩
  | rewritten key stored content hstands hpages hlastId =>
    refine ⟨hlastId.ge, ?_⟩
    intro other new hnew
    rw [MemoryWiki.page?_congr hpages, MemoryWiki.page?_put] at hnew
    split at hnew
    · next heq =>
      cases hnew
      rw [heq]
      exact .inl ⟨stored, hstands, .inr ⟨rfl, Nat.lt_succ_self stored.version⟩⟩
    · exact .inl ⟨new, hnew, .inl rfl⟩

theorem after (wiki : MemoryWiki) (history : List Operation) :
    Follows wiki (wiki.after history) := by
  induction history generalizing wiki with
  | nil => exact refl wiki
  | cons op history ih => exact (change (op.pagesChange_perform wiki)).trans (ih _)

/-- A page with an identifier that was counted before stands where it stood, and continues what
stood there. -/
theorem same_place (h : Follows first second) (hfirst : Numbered first) {key key' : PageKey}
    {page later : MemoryPage} (hpage : first.page? key = some page)
    (hlater : second.page? key' = some later) (hid : later.id = page.id) :
    key' = key ∧ page.Continues later := by
  rcases h.pages key' later hlater with ⟨old, hold, hcontinues⟩ | ⟨n, hn, hfresh⟩
  · obtain ⟨rfl, rfl⟩ := hfirst.eq_of_id hold hpage (hcontinues.id_eq.symm.trans hid)
    exact ⟨rfl, hcontinues⟩
  · obtain ⟨m, hm, hcounted⟩ := hfirst.counted _ (MemoryWiki.mem_of_page? hpage)
    have : n = m := Nat.repr_inj.mp (hfresh.symm.trans (hid.trans hcounted))
    omega

/-- Identifier and version name one state of one page: where they are found again, it is the same
page, at the same place. -/
theorem same_page (h : Follows first second) (hfirst : Numbered first) {key key' : PageKey}
    {page later : MemoryPage} (hpage : first.page? key = some page)
    (hlater : second.page? key' = some later) (hfound : later.found = page.found) :
    key' = key ∧ later = page := by
  obtain ⟨hid, hversion⟩ := PageVersion.mk.inj hfound
  obtain ⟨hkey, hcontinues⟩ := h.same_place hfirst hpage hlater hid
  exact ⟨hkey, hcontinues.eq_of_version hversion.le⟩

/-- A page that is as it was has not been anything else in between. -/
theorem stands_between (h : Follows first second) (h' : Follows second third)
    (hfirst : Numbered first) {key : PageKey} {page : MemoryPage}
    (hpage : first.page? key = some page) (hlater : third.page? key = some page) :
    second.page? key = some page := by
  -- In between, versions can only have grown, and they are the same in the end.
  rcases h'.pages key page hlater with ⟨middle, hmiddle, hcontinues⟩ | ⟨n, hn, hfresh⟩
  · obtain ⟨_, hbefore⟩ := h.same_place hfirst hpage hmiddle hcontinues.id_eq.symm
    rw [hmiddle, hbefore.eq_of_version hcontinues.version_le]
  · obtain ⟨m, hm, hcounted⟩ := hfirst.counted _ (MemoryWiki.mem_of_page? hpage)
    have : n = m := Nat.repr_inj.mp (hfresh.symm.trans hcounted)
    have := h.lastId
    omega

end Follows

/-! ### Whole histories -/

/-- Overwriting is safe in a wiki, whatever happens to it next.

Who found a page and overwrites it some operations later, overwrites the page that was found: it has
stood at its place ever since, and its version grows by one. One version is not overwritten twice.
No page is created where one is, and a call that fails leaves all pages as they are. -/
structure NoLostUpdate (wiki : MemoryWiki) : Prop where
  ids : (wiki.pages.map fun entry => entry.2.id).Nodup
  update_found : ∀ (title space : String) (found : PageVersion) (between : List Operation)
    (article : Article) (place : String),
    (wiki.findPage title space).1 = .ok (some found) →
    ((wiki.after (.find title space :: between)).update found article place).1 = .ok () →
      place = space ∧ article.title = title ∧ ∃ page, page.found = found ∧
        (∀ done, done <+: between →
          (wiki.after (.find title space :: done)).page? ⟨space, title⟩ = some page) ∧
        ((wiki.after (.find title space :: between)).update found article place).2.page?
            ⟨space, title⟩ =
          some { page with version := page.version + 1, content := article.content }
  update_once : ∀ (found : PageVersion) (between : List Operation) (article article' : Article)
    (space space' : String), (wiki.update found article space).1 = .ok () →
      ∃ e, ((wiki.after (.update found article space :: between)).update found article' space').1 =
        .error e
  create_taken : ∀ (article : Article) (space : String) (parent : Option String),
    (wiki.page? ⟨space, article.title⟩).isSome →
      ∃ e, (wiki.create article space parent).1 = .error e
  create_error : ∀ (article : Article) (space : String) (parent : Option String) (e : CallError),
    (wiki.create article space parent).1 = .error e →
      (wiki.create article space parent).2.pages = wiki.pages
  update_error : ∀ (found : PageVersion) (article : Article) (space : String) (e : CallError),
    (wiki.update found article space).1 = .error e →
      (wiki.update found article space).2.pages = wiki.pages

namespace MemoryWiki

variable (wiki : MemoryWiki)

/-- What a look-up finds is a page that stands at the place. -/
theorem stands_of_findPage {title space : String} {found : PageVersion}
    (h : (wiki.findPage title space).1 = .ok (some found)) :
    ∃ page, wiki.page? ⟨space, title⟩ = some page ∧ page.found = found := by
  simp only [findPage] at h
  split at h
  · cases h
  · cases hpage : wiki.page? ⟨space, title⟩ with
    | none => simp [hpage] at h
    | some page =>
      rw [hpage] at h
      cases h
      exact ⟨page, rfl, rfl⟩

/-- A page that was overwritten was the one that was named; now it is there in its next version. -/
theorem page?_of_update {found : PageVersion} {article : Article} {space : String}
    (h : (wiki.update found article space).1 = .ok ()) :
    ∃ stored, wiki.page? ⟨space, article.title⟩ = some stored ∧ stored.found = found ∧
      (wiki.update found article space).2.page? ⟨space, article.title⟩ =
        some { stored with version := stored.version + 1, content := article.content } := by
  rcases wiki.update_cases found article space with ⟨e, herror⟩ | ⟨stored, hstands, hfound, hok⟩
  · rw [herror] at h
    cases h
  · rw [hok]
    exact ⟨stored, hstands, hfound, page?_put_self ..⟩

end MemoryWiki

/-- Identifiers and versions alone make overwriting safe: whatever the operations were that led to
the wiki does not matter. -/
theorem Numbered.noLostUpdate {wiki : MemoryWiki} (hwiki : Numbered wiki) : NoLostUpdate wiki where
  ids := hwiki.ids
  update_found := by
    intro title space found between article place hfind hupdate
    -- The page that is overwritten is found by its identifier and version, so it is the same page.
    obtain ⟨page, hpage, rfl⟩ := wiki.stands_of_findPage hfind
    obtain ⟨stored, hstored, hfound, hafter⟩ := MemoryWiki.page?_of_update _ hupdate
    obtain ⟨hkey, rfl⟩ := (Follows.after wiki _).same_page hwiki hpage hstored hfound
    obtain ⟨rfl, rfl⟩ := PageKey.mk.inj hkey
    refine ⟨rfl, rfl, stored, rfl, ?_, hafter⟩
    rintro done ⟨rest, rfl⟩
    refine (Follows.after wiki _).stands_between ?_ hwiki hpage hstored
    rw [← List.cons_append, MemoryWiki.after_append]
    exact Follows.after _ rest
  update_once := by
    intro found between article article' space space' hfirst
    obtain ⟨stored, hstored, rfl, hnext⟩ := wiki.page?_of_update hfirst
    have hnumbered := hwiki.change (Operation.pagesChange_perform wiki
      (.update stored.found article space))
    rcases MemoryWiki.update_cases _ stored.found article' space' with
      ⟨e, herror⟩ | ⟨later, hlater, hfound, _⟩
    · exact ⟨e, congrArg Prod.fst herror⟩
    · -- the page would have to be back at a version that it had left
      obtain ⟨hid, hversion⟩ := PageVersion.mk.inj hfound
      have hcontinues :=
        ((Follows.after _ between).same_place hnumbered hnext hlater hid).2.version_le
      dsimp only at hcontinues
      omega
  create_taken := by
    intro article space parent htaken
    rcases wiki.create_cases article space parent with ⟨e, herror⟩ | ⟨hfree, _⟩
    · exact ⟨e, congrArg Prod.fst herror⟩
    · rw [hfree] at htaken
      cases htaken
  create_error := by
    intro article space parent e h
    rcases wiki.create_cases article space parent with ⟨e', herror⟩ | ⟨_, hok⟩
    · rw [herror]
      rfl
    · rw [hok] at h
      cases h
  update_error := by
    intro found article space e h
    rcases wiki.update_cases found article space with ⟨e', herror⟩ | ⟨stored, _, _, hok⟩
    · rw [herror]
      rfl
    · rw [hok] at h
      cases h

/-- No change to a page is lost, whatever was done to an empty wiki and whatever is done next.
The counter of identifiers and the versions never pass the number of operations, so words of 64
bits are wide enough for all that can be carried out. -/
theorem no_lost_update (template : Option TemplatePage) (history : List Operation) :
    NoLostUpdate ((MemoryWiki.empty template).after history) ∧
      CountedTo history.length ((MemoryWiki.empty template).after history) := by
  have hempty : CountedTo 0 (.empty template) :=
    ⟨le_rfl, fun _ h => absurd h List.not_mem_nil⟩
  refine ⟨((numbered_empty template).after history).noLostUpdate, ?_⟩
  rw [← Nat.zero_add history.length]
  exact hempty.after history

/-- Two clients find the same page. The first one to overwrite it succeeds, with the page that it
found; the other one is refused, also after the page was replaced by another one. -/
theorem no_lost_update_two_clients :
    let history : List Operation := [.add ⟨"S", "a"⟩ "old", .failOn "b" .create]
    let wiki := (MemoryWiki.empty none).after history
    let found : PageVersion := ⟨"1", 1⟩
    let article : Article := ⟨"1", "a", "new", "page", "storage"⟩
    let between : List Operation := [.find "a" "S", .add ⟨"S", "c"⟩ "more"]
    (wiki.findPage "a" "S").1 = .ok (some found) ∧
      (∃ page, page.found = found ∧ page.content = "old" ∧
        (wiki.after (.find "a" "S" :: between)).page? ⟨"S", "a"⟩ = some page) ∧
      ((wiki.after (.find "a" "S" :: between)).update found article "S").1 = .ok () ∧
      ∃ e, ((wiki.after [.update found article "S", .add ⟨"S", "a"⟩ "other"]).update found article
        "S").1 = .error e := by
  intro history wiki found article between
  have hsafe := (no_lost_update none history).1
  have hfind : (wiki.findPage "a" "S").1 = .ok (some found) := rfl
  have hupdate : ((wiki.after (.find "a" "S" :: between)).update found article "S").1 = .ok () :=
    rfl
  obtain ⟨_, _, page, hfound, hstands, _⟩ :=
    hsafe.update_found "a" "S" found between article "S" hfind hupdate
  have hpage : page = ⟨"1", 1, "old", none⟩ :=
    Option.some.inj ((hstands [] List.nil_prefix).symm.trans rfl)
  refine ⟨hfind, ⟨page, hfound, by rw [hpage], hstands between List.prefix_rfl⟩, hupdate, ?_⟩
  exact hsafe.update_once found [.add ⟨"S", "a"⟩ "other"] article article "S" "S" rfl

end PageMerge.Wiki
