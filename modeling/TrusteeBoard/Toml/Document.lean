import TrusteeBoard.Toml.Basic

/-!
# Assembling tables

`insertPair` adds one key and value to a table and `insertSection` the table under a header. A table
once written is closed: headers do not repeat, dotted keys add only to tables that dotted keys made,
and nothing adds to an inline table or to a value.
-/

namespace TrusteeBoard.Toml

/-- A key with its path, and a value. -/
structure Pair where
  path : List String
  key : String
  value : Toml

/-- Adds a pair whose remaining path is `path` to a table made as `origin`. The table that gets a
key after a path has to be dotted, and one that gets it without has not to be. -/
def insertAt (pair : Pair) : (path : List String) → Origin → Entries → Option Entries
  | [], origin, entries =>
    if (origin = .dotted) = (pair.path = []) then none
    else
      match entries.find? pair.key with
      | some _ => none
      | none => some (entries ++ [(pair.key, pair.value)])
  | name :: path, _, entries =>
    match entries.find? name with
    | none => do
      let inner ← insertAt pair path .dotted []
      return entries ++ [(name, .table .dotted inner)]
    | some (.table .implicit inner) => do
      let inner ← insertAt pair path .implicit inner
      return entries.set name (.table .implicit inner)
    | some (.table .dotted inner) => do
      let inner ← insertAt pair path .dotted inner
      return entries.set name (.table .dotted inner)
    | some (.tables elements) => do
      let last ← elements.getLast?
      let last ← insertAt pair path .header last
      return entries.set name (.tables (elements.dropLast ++ [last]))
    | some _ => none

def insertPair (origin : Origin) (entries : Entries) (pair : Pair) : Option Entries :=
  insertAt pair pair.path origin entries

/-- The table of a list of pairs, added to what is there. -/
def insertPairs (origin : Origin) (entries : Entries) (pairs : List Pair) : Option Entries :=
  pairs.foldlM (insertPair origin) entries

/-- The pairs under one header. -/
structure Section where
  /-- Whether the header is that of an array of tables. -/
  isElement : Bool
  path : List String
  pairs : List Pair

/-- The value under a header, in place of what was there before. -/
def sectionValue (s : Section) (old : Option Toml) : Option Toml :=
  if s.isElement then
    match old with
    | none => do return .tables [← insertPairs .header [] s.pairs]
    | some (.tables elements) => do
      return .tables (elements ++ [← insertPairs .header [] s.pairs])
    | some _ => none
  else
    match old with
    | none => .table .header <$> insertPairs .header [] s.pairs
    | some (.table .implicit entries) => .table .header <$> insertPairs .header entries s.pairs
    | some _ => none

/-- Adds a section at what is left of its path. Tables on the way are made where they are missing;
of an array of tables the last one is entered. -/
def insertSectionAt (s : Section) : (path : List String) → Entries → Option Entries
  | [], _ => none
  | [name], entries => do
    let value ← sectionValue s (entries.find? name)
    return entries.set name value
  | name :: path, entries =>
    match entries.find? name with
    | none => do
      let inner ← insertSectionAt s path []
      return entries ++ [(name, .table .implicit inner)]
    | some (.table .inline _) => none
    | some (.table origin inner) => do
      let inner ← insertSectionAt s path inner
      return entries.set name (.table origin inner)
    | some (.tables elements) => do
      let last ← elements.getLast?
      let last ← insertSectionAt s path last
      return entries.set name (.tables (elements.dropLast ++ [last]))
    | some _ => none

def insertSection (entries : Entries) (s : Section) : Option Entries :=
  insertSectionAt s s.path entries

/-- A document: the pairs before the first header, and the sections. -/
structure Document where
  pairs : List Pair
  sections : List Section

/-- The entries of a document. -/
def Document.entries? (d : Document) : Option Entries := do
  let root ← insertPairs .header [] d.pairs
  d.sections.foldlM insertSection root

end TrusteeBoard.Toml
