import PageMerge.Proofs.Template.Store

/-!
# Calls of a store

A store is called once after the other, and what it keeps of a page is said by the latest call for
the page that did not fail: its texts, its marks, and the very template that it was answered with.
So a call is answered without a scan exactly if it has these texts and marks, and the answer is the
one of the call that scanned them. A call that fails, and a call for another page, change nothing of
what is kept for the page.

## Main definitions

* `Call`, `calls`: requests with what the store answered them
* `latest?`: the latest call for a page that did not fail
* `StoredAfter`: the call of a history that stored a template
* `Answered`: what a history says of the next call

## Main results

* `lookup_entries_afterAll`: what is kept, by the latest call
* `stored_of_latest?`: the template of the latest call was stored by a call of the history
* `answered_of_history`: what calls do after every history
-/

namespace PageMerge.TemplateStore

open PageMerge.Template (Marks)

/-! ### Calls -/

/-- A request with what the store answered. -/
structure Call where
  request : Request
  answer : Except TemplateProblem ScannedTemplate

/-- The call of a request. -/
def call (store : TemplateStore) (request : Request) : Call :=
  ⟨request, (store.obtain request.marks request.page).1⟩

/-- The calls of requests, one after the other. -/
def callsFrom (store : TemplateStore) : List Request → List Call
  | [] => []
  | request :: rest => store.call request :: (store.after request).callsFrom rest

/-- The calls of a history. -/
def calls (history : List Request) : List Call := empty.callsFrom history

/-- A call for the page that did not fail. -/
def Call.succeededFor (id : String) (call : Call) : Bool :=
  call.request.page.id == id && call.answer.isOk

/-- The latest call for a page that did not fail. -/
def latest? (history : List Request) (id : String) : Option Call :=
  ((calls history).filter (Call.succeededFor id)).getLast?

theorem callsFrom_concat (store : TemplateStore) (history : List Request) (last : Request) :
    store.callsFrom (history ++ [last]) =
      store.callsFrom history ++ [(history.foldl after store).call last] := by
  induction history generalizing store with
  | nil => rfl
  | cons request rest ih =>
    rw [List.cons_append, callsFrom, ih, callsFrom, List.cons_append, List.foldl_cons]

theorem afterAll_concat (history : List Request) (last : Request) :
    afterAll (history ++ [last]) = (afterAll history).after last :=
  List.foldl_concat ..

/-- The last call is the latest one of its page if it did not fail. -/
theorem latest?_concat (history : List Request) (last : Request) (id : String) :
    latest? (history ++ [last]) id =
      if ((afterAll history).call last).succeededFor id then some ((afterAll history).call last)
      else latest? history id := by
  rw [latest?, calls, callsFrom_concat, List.filter_append, ← calls, ← afterAll]
  split
  · rename_i hlast
    rw [List.filter_cons_of_pos hlast, List.filter_nil, List.getLast?_concat]
  · rename_i hlast
    rw [List.filter_cons_of_neg hlast, List.filter_nil, List.append_nil, latest?]

/-- The latest call is for the page, and did not fail. -/
theorem exists_of_latest? {history : List Request} {id : String} {latest : Call}
    (h : latest? history id = some latest) :
    latest.request.page.id = id ∧ ∃ parsed, latest.answer = .ok parsed := by
  have hsucceeded := (List.mem_filter.mp (List.mem_of_getLast? h)).2
  rw [Call.succeededFor, Bool.and_eq_true, beq_iff_eq] at hsucceeded
  refine ⟨hsucceeded.1, ?_⟩
  cases hanswer : latest.answer with
  | error e => rw [hanswer] at hsucceeded; cases hsucceeded.2
  | ok parsed => exact ⟨parsed, rfl⟩

/-! ### What one call does -/

/-- A template is used if it is kept for the page with the texts and marks of the request. -/
theorem hit?_eq_some_iff (store : TemplateStore) (request : Request) (parsed : ScannedTemplate) :
    store.hit? request.marks request.page = some parsed ↔
      store.entries.lookup request.page.id =
        some ⟨request.page.title, request.page.body, request.marks, parsed⟩ := by
  rw [hit?]
  cases store.entries.lookup request.page.id with
  | none =>
    constructor <;> intro h <;> cases h
  | some kept =>
    obtain ⟨title, body, marks, kept⟩ := kept
    simp only [Option.ite_none_right_eq_some, Option.some.injEq, KeptTemplate.mk.injEq, and_assoc]

/-- A call uses what is kept, or scans the page; it keeps a template that it has scanned, and
nothing if the page is malformed. -/
theorem obtain_cases (store : TemplateStore) (request : Request) :
    (∃ parsed, store.hit? request.marks request.page = some parsed ∧
      store.obtain request.marks request.page = (.ok parsed, store)) ∨
    (∃ e, store.hit? request.marks request.page = none ∧
      store.obtain request.marks request.page =
        (.error e, { store with scanCount := store.scanCount + 1 })) ∨
    (∃ template, store.hit? request.marks request.page = none ∧
      let parsed := ⟨store.scanCount + 1, template⟩
      let counted : TemplateStore := { store with scanCount := store.scanCount + 1 }
      store.obtain request.marks request.page = (.ok parsed, counted.keep request.page.id
        ⟨request.page.title, request.page.body, request.marks, parsed⟩)) := by
  rw [obtain]
  cases store.hit? request.marks request.page with
  | some parsed => exact .inl ⟨parsed, rfl, rfl⟩
  | none =>
    refine .inr ?_
    cases Template.ofPage request.marks request.page with
    | error e => exact .inl ⟨e, rfl, rfl⟩
    | ok template => exact .inr ⟨template, rfl, rfl⟩

/-- A call that fails takes nothing away and keeps nothing. -/
theorem entries_after_of_error {store : TemplateStore} {request : Request} {e : TemplateProblem}
    (h : (store.call request).answer = .error e) :
    (store.after request).entries = store.entries := by
  rw [call] at h
  rw [after]
  rcases obtain_cases store request with ⟨_, _, heq⟩ | ⟨_, _, heq⟩ | ⟨_, _, heq⟩
  · rw [heq]
  · rw [heq]
  · rw [heq] at h
    cases h

/-- A call changes nothing of what is kept for another page. -/
theorem lookup_after_of_ne (store : TemplateStore) {request : Request} {id : String}
    (h : id ≠ request.page.id) :
    (store.after request).entries.lookup id = store.entries.lookup id := by
  rw [after]
  rcases obtain_cases store request with ⟨_, _, heq⟩ | ⟨_, _, heq⟩ | ⟨_, _, heq⟩
  · rw [heq]
  · rw [heq]
  · rw [heq, keep, lookup_assigned, if_neg h]

/-- What is used is said by what is kept for the page. -/
theorem hit?_congr {store other : TemplateStore} {request : Request}
    (h : store.entries.lookup request.page.id = other.entries.lookup request.page.id) :
    store.hit? request.marks request.page = other.hit? request.marks request.page := by
  rw [hit?, hit?, h]

/-! ### What is kept -/

/-- What a call that did not fail leaves in the store. -/
def Call.kept? (call : Call) : Option KeptTemplate :=
  call.answer.toOption.map fun parsed =>
    ⟨call.request.page.title, call.request.page.body, call.request.marks, parsed⟩

/-- After a call that did not fail, its texts and its answer are kept. -/
theorem lookup_after_of_ok {store : TemplateStore} {request : Request} {parsed : ScannedTemplate}
    (h : (store.call request).answer = .ok parsed) :
    (store.after request).entries.lookup request.page.id = (store.call request).kept? := by
  rw [Call.kept?, h]
  rw [call] at h
  rw [after]
  rcases obtain_cases store request with ⟨used, hhit, heq⟩ | ⟨_, _, heq⟩ | ⟨template, _, heq⟩
  · rw [heq] at h ⊢
    obtain rfl : used = parsed := Except.ok.inj h
    exact (hit?_eq_some_iff store request used).mp hhit
  · rw [heq] at h
    cases h
  · rw [heq] at h ⊢
    obtain rfl := Except.ok.inj h
    rw [keep, lookup_assigned, if_pos rfl]
    rfl

/-- What is kept of a page is what the latest call for it left, if it did not fail. -/
theorem lookup_entries_afterAll (history : List Request) (id : String) :
    (afterAll history).entries.lookup id = (latest? history id).bind Call.kept? := by
  induction history using List.reverseRecOn with
  | nil => rfl
  | append_singleton history last ih =>
    -- The last call decides if it is for this page and did not fail. Else it changes neither side.
    rw [afterAll_concat, latest?_concat, Call.succeededFor]
    by_cases hid : last.page.id = id
    · subst hid
      cases hanswer : ((afterAll history).call last).answer with
      | error e =>
        rw [entries_after_of_error hanswer, ih, if_neg (by simp [Except.isOk, Except.toBool])]
      | ok parsed =>
        rw [lookup_after_of_ok hanswer, if_pos]
        · rfl
        · rw [Bool.and_eq_true, beq_iff_eq]
          exact ⟨rfl, rfl⟩
    · have hother : (((afterAll history).call last).request.page.id == id) = false :=
        beq_false_of_ne hid
      rw [lookup_after_of_ne _ (Ne.symm hid), ih, hother, Bool.false_and]
      rfl

/-- A page with the texts and marks of the latest call is answered as that call was. -/
theorem hit?_of_latest {history : List Request} {request : Request} {latest : Call}
    (hlatest : latest? history request.page.id = some latest)
    (hsame : latest.request.SameTexts request) :
    ∃ parsed, latest.answer = .ok parsed ∧
      (afterAll history).hit? request.marks request.page = some parsed := by
  obtain ⟨-, parsed, hanswer⟩ := exists_of_latest? hlatest
  refine ⟨parsed, hanswer, ?_⟩
  obtain ⟨htitle, hbody, hmarks⟩ := hsame
  rw [hit?_eq_some_iff, lookup_entries_afterAll, hlatest, Option.bind_some, Call.kept?, hanswer,
    htitle, hbody, hmarks]
  rfl

/-- What is used for a request was the answer of the latest call, which had its texts and marks. -/
theorem latest_of_hit? {history : List Request} {request : Request} {parsed : ScannedTemplate}
    (h : (afterAll history).hit? request.marks request.page = some parsed) :
    ∃ latest, latest? history request.page.id = some latest ∧
      latest.request.SameTexts request ∧ latest.answer = .ok parsed := by
  rw [hit?_eq_some_iff, lookup_entries_afterAll] at h
  obtain ⟨latest, hlatest, hkept⟩ := Option.bind_eq_some_iff.mp h
  obtain ⟨-, answered, hanswer⟩ := exists_of_latest? hlatest
  rw [Call.kept?, hanswer] at hkept
  obtain ⟨htitle, hbody, hmarks, rfl⟩ := KeptTemplate.mk.inj (Option.some.inj hkept)
  exact ⟨latest, hlatest, ⟨htitle, hbody, hmarks⟩, hanswer⟩

/-! ### The call that made a template -/

/-- A call after a history stored the template that it was answered with: it had to be scanned, and
has the number of its scan. -/
structure StoredBy (before : List Request) (stored : Request) (parsed : ScannedTemplate) :
    Prop where
  missing : (afterAll before).hit? stored.marks stored.page = none
  answer : ((afterAll before).call stored).answer = .ok parsed
  kept : (afterAll (before ++ [stored])).hit? stored.marks stored.page = some parsed
  scan_eq : parsed.scan = (afterAll before).scanCount + 1
  scanCount : (afterAll (before ++ [stored])).scanCount = parsed.scan

/-- The call after the first part of the history, for the page of the request and with its texts and
marks, stored the template. -/
def StoredAfter (history : List Request) (request : Request) (parsed : ScannedTemplate)
    (before : List Request) : Prop :=
  ∃ stored later, history = before ++ stored :: later ∧ stored.page.id = request.page.id ∧
    stored.SameTexts request ∧ StoredBy before stored parsed

theorem StoredAfter.concat {history before : List Request} {first second : Request}
    {parsed : ScannedTemplate} (h : StoredAfter history first parsed before)
    (hid : first.page.id = second.page.id) (hsame : first.SameTexts second) (last : Request) :
    StoredAfter (history ++ [last]) second parsed before := by
  obtain ⟨stored, later, rfl, hpage, htexts, hstored⟩ := h
  refine ⟨stored, later ++ [last], ?_, hpage.trans hid, htexts.trans hsame, hstored⟩
  rw [List.append_assoc, List.cons_append]

/-- A call that scans a page that is not malformed stores its template. -/
theorem storedBy_of_answer {history : List Request} {request : Request} {parsed : ScannedTemplate}
    (hmissing : (afterAll history).hit? request.marks request.page = none)
    (hanswer : ((afterAll history).call request).answer = .ok parsed) :
    StoredBy history request parsed := by
  have hkept := lookup_after_of_ok hanswer
  rw [Call.kept?, hanswer, ← afterAll_concat] at hkept
  have hcall := hanswer
  rw [call] at hcall
  rcases obtain_cases (afterAll history) request with
    ⟨_, hhit, _⟩ | ⟨_, _, heq⟩ | ⟨template, _, heq⟩
  · rw [hmissing] at hhit
    cases hhit
  · rw [heq] at hcall
    cases hcall
  · refine ⟨hmissing, hanswer, (hit?_eq_some_iff ..).mpr hkept, ?_, ?_⟩
    · rw [heq] at hcall
      rw [← Except.ok.inj hcall]
    · rw [afterAll_concat, after, heq]
      rw [heq] at hcall
      rw [← Except.ok.inj hcall]
      rfl

/-- The answer of the latest call was stored by a call of the history. -/
theorem stored_of_latest? (history : List Request) : ∀ {id : String} {latest : Call}
    {parsed : ScannedTemplate}, latest? history id = some latest → latest.answer = .ok parsed →
      ∃ before, StoredAfter history latest.request parsed before := by
  induction history using List.reverseRecOn with
  | nil =>
    intro id latest parsed hlatest
    cases hlatest
  | append_singleton history last ih =>
    intro id latest parsed hlatest hanswer
    have hself : ∀ request : Request, request.SameTexts request := fun _ => ⟨rfl, rfl, rfl⟩
    rw [latest?_concat] at hlatest
    split at hlatest
    · obtain rfl := Option.some.inj hlatest
      cases hhit : (afterAll history).hit? last.marks last.page with
      | none =>
        exact ⟨history, last, [], rfl, rfl, hself last, storedBy_of_answer hhit hanswer⟩
      | some used =>
        -- What was used is the answer of an earlier call, and stored as that one was.
        obtain ⟨earlier, hearlier, hsame, hused⟩ := latest_of_hit? hhit
        have hpage := (exists_of_latest? hearlier).1
        have heq : used = parsed := by
          rw [call, obtain, hhit] at hanswer
          exact Except.ok.inj hanswer
        obtain ⟨before, hbefore⟩ := ih hearlier hused
        rw [← heq]
        exact ⟨before, hbefore.concat hpage hsame last⟩
    · obtain ⟨before, hbefore⟩ := ih hlatest hanswer
      exact ⟨before, hbefore.concat rfl (hself _) last⟩

theorem scanCount_after (store : TemplateStore) (request : Request) :
    (store.after request).scanCount =
      if (store.hit? request.marks request.page).isSome then store.scanCount
      else store.scanCount + 1 := by
  rw [after]
  rcases obtain_cases store request with ⟨_, hhit, heq⟩ | ⟨_, hhit, heq⟩ | ⟨_, hhit, heq⟩ <;>
    rw [heq, hhit] <;> rfl

theorem scanCount_le_append (before later : List Request) :
    (afterAll before).scanCount ≤ (afterAll (before ++ later)).scanCount := by
  induction later using List.reverseRecOn with
  | nil => rw [List.append_nil]
  | append_singleton later last ih =>
    rw [← List.append_assoc, afterAll_concat, scanCount_after]
    split
    · exact ih
    · exact Nat.le_succ_of_le ih

/-- Scans are numbered in their order. -/
theorem StoredBy.scan_lt {before later : List Request} {stored other : Request}
    {parsed parsedLater : ScannedTemplate} (h : StoredBy before stored parsed)
    (h' : StoredBy (before ++ stored :: later) other parsedLater) :
    parsed.scan < parsedLater.scan := by
  have hle := scanCount_le_append (before ++ [stored]) later
  rw [List.append_assoc, List.singleton_append, h.scanCount] at hle
  rw [h'.scan_eq]
  exact Nat.lt_succ_of_le hle

/-- Only one call of a history stored a template. -/
theorem StoredAfter.unique {history before other : List Request} {request : Request}
    {parsed : ScannedTemplate} (h : StoredAfter history request parsed before)
    (h' : StoredAfter history request parsed other) : before = other := by
  obtain ⟨stored, later, rfl, -, -, hstored⟩ := h
  obtain ⟨storedOther, rest, hhistory, -, -, hother⟩ := h'
  -- Otherwise one of the calls comes after the other, and its scan has a larger number.
  rcases List.append_eq_append_iff.mp hhistory with
    ⟨between, hbetween, hrest⟩ | ⟨between, hbetween, hrest⟩
  · cases between with
    | nil => rw [hbetween, List.append_nil]
    | cons first between =>
      obtain ⟨rfl, -⟩ := List.cons.inj hrest
      rw [hbetween] at hother
      exact absurd (hstored.scan_lt hother) (Nat.lt_irrefl _)
  · cases between with
    | nil => rw [hbetween, List.append_nil]
    | cons first between =>
      obtain ⟨rfl, -⟩ := List.cons.inj hrest
      rw [hbetween] at hstored
      exact absurd (hother.scan_lt hstored) (Nat.lt_irrefl _)

/-! ### Histories -/

/-- What a history says of the next call. -/
structure Answered (history : List Request) (request : Request) : Prop where
  /-- With the texts and marks of the latest call for its page nothing is scanned, and the answer is
  the very template that one call of the history has stored. -/
  kept : ∀ latest, latest? history request.page.id = some latest →
    latest.request.SameTexts request → ∃ parsed, latest.answer = .ok parsed ∧
      (afterAll history).obtain request.marks request.page = (.ok parsed, afterAll history) ∧
      ∃! before, StoredAfter history request parsed before
  /-- Otherwise the page is scanned once. -/
  scanned : (∀ latest, latest? history request.page.id = some latest →
      ¬ latest.request.SameTexts request) →
    (afterAll (history ++ [request])).scanCount = (afterAll history).scanCount + 1
  /-- A call that fails leaves what is kept as it was, so that the texts of the latest call for a
  page are still answered without a scan. -/
  failed : ∀ e, ((afterAll history).call request).answer = .error e →
    (afterAll (history ++ [request])).entries = (afterAll history).entries ∧
    ∀ next latest, latest? history next.page.id = some latest → latest.request.SameTexts next →
      ∃ parsed, latest.answer = .ok parsed ∧
        (afterAll (history ++ [request])).obtain next.marks next.page =
          (.ok parsed, afterAll (history ++ [request]))
  /-- What is used for another page stays the same. -/
  others : ∀ other : Request, other.page.id ≠ request.page.id →
    (afterAll (history ++ [request])).hit? other.marks other.page =
      (afterAll history).hit? other.marks other.page

theorem obtain_of_hit? {store : TemplateStore} {request : Request} {parsed : ScannedTemplate}
    (h : store.hit? request.marks request.page = some parsed) :
    store.obtain request.marks request.page = (.ok parsed, store) := by
  rw [obtain, h]

/-- What a call does after every history. -/
theorem answered_of_history (history : List Request) (request : Request) :
    Answered history request := by
  constructor
  case kept =>
    intro latest hlatest hsame
    obtain ⟨parsed, hanswer, hhit⟩ := hit?_of_latest hlatest hsame
    obtain ⟨before, stored, later, hhistory, hpage, htexts, hstored⟩ :=
      stored_of_latest? history hlatest hanswer
    have hafter : StoredAfter history request parsed before :=
      ⟨stored, later, hhistory, hpage.trans (exists_of_latest? hlatest).1, htexts.trans hsame,
        hstored⟩
    exact ⟨parsed, hanswer, obtain_of_hit? hhit, before, hafter, fun _ h => h.unique hafter⟩
  case scanned =>
    intro hother
    have hmissing : (afterAll history).hit? request.marks request.page = none := by
      by_contra hhit
      obtain ⟨parsed, hhit⟩ := Option.ne_none_iff_exists'.mp hhit
      obtain ⟨latest, hlatest, hsame, -⟩ := latest_of_hit? hhit
      exact hother latest hlatest hsame
    rw [afterAll_concat, scanCount_after, hmissing]
    rfl
  case failed =>
    intro e he
    have hentries := entries_after_of_error he
    rw [← afterAll_concat] at hentries
    refine ⟨hentries, fun next latest hlatest hsame => ?_⟩
    obtain ⟨parsed, hanswer, hhit⟩ := hit?_of_latest hlatest hsame
    refine ⟨parsed, hanswer, obtain_of_hit? ?_⟩
    rw [← hhit]
    exact hit?_congr (by rw [hentries])
  case others =>
    intro other hother
    rw [afterAll_concat]
    exact hit?_congr (lookup_after_of_ne _ hother)

end PageMerge.TemplateStore
