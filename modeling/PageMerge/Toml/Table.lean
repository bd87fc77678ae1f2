import PageMerge.Toml.Value

/-!
# Building tables

The tables of a document are built up by key-value pairs and headers. A table may be there before
its own header because the header of a deeper table needs it, or because a dotted key does; each of
the three ways of making a table limits how it can be extended later on.

## Main definitions

* `Entry`: what a key of an unfinished table holds
* `insertDotted`: a key-value pair with a dotted key
* `Draft`: an unfinished document, with `Draft.openTable` and `Draft.openItem` for headers
-/

namespace PageMerge.Toml

/-- How a table came to be. -/
inductive Origin where
  /-- By its own header. -/
  | header
  /-- By the header of a table inside it. -/
  | deeperHeader
  /-- By a dotted key. -/
  | dottedKey
  deriving DecidableEq, Repr

/-- What a key of an unfinished table holds. -/
inductive Entry where
  | value (value : Value)
  | table (origin : Origin) (entries : List (String × Entry))
  /-- The tables of a list that are finished so far, the last one first. -/
  | tables (items : List (List (String × Entry)))

/-- The entries of an unfinished table, in the order of the document. -/
abbrev Entries := List (String × Entry)

/-- Sets what a key holds, in its place if the key is there and at the end otherwise. -/
def Entries.set (key : String) (entry : Entry) : Entries → Entries
  | [] => [(key, entry)]
  | (other, old) :: rest =>
    if other = key then (key, entry) :: rest else (other, old) :: Entries.set key entry rest

/-- Takes away a key. -/
def Entries.erase (key : String) (entries : Entries) : Entries :=
  entries.filter fun (other, _) => other != key

/-- Puts a value at a dotted key: the keys on the way, and the last key. The tables on the way must
not have been made by a header of their own, and the table that gets the value must have been made
by a dotted key. -/
def insertDotted (last : String) (value : Value) : List String → Entries → Option Entries
  | [], entries =>
    if (entries.lookup last).isSome then none else some (entries ++ [(last, .value value)])
  | key :: path, entries =>
    match entries.lookup key with
    | none => do
      let inner ← insertDotted last value path []
      some (entries ++ [(key, .table .dottedKey inner)])
    | some (.table origin inner) =>
      if origin = .header ∨ (path = [] ∧ origin ≠ .dottedKey) then none
      else do
        let inner ← insertDotted last value path inner
        some (entries.set key (.table origin inner))
    | some (.tables (item :: before)) =>
      if path = [] then none
      else do
        let item ← insertDotted last value path item
        some (entries.set key (.tables (item :: before)))
    | some (.tables []) => none
    | some (.value _) => none

/-- Changes the table that the keys of a header lead to. Missing tables on the way are made, and of
a list of tables the last one is taken. -/
def below (change : Entries → Option (α × Entries)) :
    List String → Entries → Option (α × Entries)
  | [], entries => change entries
  | key :: path, entries =>
    match entries.lookup key with
    | none => do
      let (a, inner) ← below change path []
      some (a, entries ++ [(key, .table .deeperHeader inner)])
    | some (.table origin inner) => do
      let (a, inner) ← below change path inner
      some (a, entries.set key (.table origin inner))
    | some (.tables (item :: before)) => do
      let (a, item) ← below change path item
      some (a, entries.set key (.tables (item :: before)))
    | some (.tables []) => none
    | some (.value _) => none

mutual

/-- The value of a finished entry. -/
def Entry.finish : Entry → Value
  | .value value => value
  | .table _ entries => .table (finishMembers entries)
  | .tables items => .array (finishItems items).reverse

/-- The members of a finished table. -/
def finishMembers : List (String × Entry) → List (String × Value)
  | [] => []
  | (key, entry) :: rest => (key, entry.finish) :: finishMembers rest

/-- The values of finished tables. -/
def finishItems : List (List (String × Entry)) → List Value
  | [] => []
  | item :: rest => .table (finishMembers item) :: finishItems rest

end

/-- Where the pairs after a header go. -/
inductive Section where
  /-- Into the table of the whole document. -/
  | top
  /-- Into a table. -/
  | table (path : List String) (key : String)
  /-- Into a new item of a list of tables. -/
  | item (path : List String) (key : String)

/-- An unfinished document: what the finished sections made, and the section that is being
filled. -/
structure Draft where
  finished : Entries
  current : Section
  entries : Entries

namespace Draft

/-- A document without pairs. -/
def empty : Draft := ⟨[], .top, []⟩

/-- Adds a pair to the current section. -/
def addPair (draft : Draft) (path : List String) (last : String) (value : Value) :
    Option Draft := do
  some { draft with entries := ← insertDotted last value path draft.entries }

/-- The entries with the current section put in its place. -/
def close (draft : Draft) : Option Entries :=
  match draft.current with
  | .top => some draft.entries
  | .table path key =>
    (below (fun es => some ((), es ++ [(key, .table .header draft.entries)])) path
      draft.finished).map Prod.snd
  | .item path key =>
    let add := fun (es : Entries) =>
      match es.lookup key with
      | some (.tables items) => some ((), es.set key (.tables (draft.entries :: items)))
      | _ => none
    (below add path draft.finished).map Prod.snd

/-- Starts the section of a table. A table that deeper headers have made keeps its entries and moves
to the end of its container; no other table can be there before. -/
def openTable (draft : Draft) (path : List String) (key : String) : Option Draft := do
  let take := fun (es : Entries) =>
    match es.lookup key with
    | none => some ([], es)
    | some (.table .deeperHeader entries) => some (entries, es.erase key)
    | some _ => none
  let (entries, finished) ← below take path (← draft.close)
  some ⟨finished, .table path key, entries⟩

/-- Starts the section of a new item of a list of tables. -/
def openItem (draft : Draft) (path : List String) (key : String) : Option Draft := do
  let make := fun (es : Entries) =>
    match es.lookup key with
    | none => some ((), es ++ [(key, .tables [])])
    | some (.tables _) => some ((), es)
    | some _ => none
  let (_, finished) ← below make path (← draft.close)
  some ⟨finished, .item path key, []⟩

end Draft

end PageMerge.Toml
