import TrusteeBoard.Layout.Records
import TrusteeBoard.OrderedMap
import TrusteeBoard.Store.Basic

/-!
# The store of byte maps

The persisted state as five maps of bytes: the governance record, the three collections by the bytes
of their names, and stamps. Values are laid out by `Config.layout`, `Nominee.layout` and so on. The
stamp `schema_version` has to be that of this layout before a store is opened (`ByteMaps.opened`); a
store without one gets it.
-/

namespace TrusteeBoard

/-- The maps of a store. -/
inductive MapName where
  | config
  | nominees
  | candidates
  | board
  | stamps
  deriving DecidableEq, Repr

namespace MapName

def all : List MapName := [.config, .nominees, .candidates, .board, .stamps]

instance : ToString MapName where
  toString
    | .config => "config"
    | .nominees => "nominees"
    | .candidates => "candidates"
    | .board => "board"
    | .stamps => "meta"

def ofString? (s : String) : Option MapName :=
  all.find? fun m => toString m == s

end MapName

/-- A map from keys to values, both byte strings; keys ascend byte by byte. -/
abbrev ByteMap : Type := OrderedMap (List UInt8) (List UInt8)

/-- The maps of a store by name. -/
structure ByteMaps where
  config : ByteMap := .empty
  nominees : ByteMap := .empty
  candidates : ByteMap := .empty
  board : ByteMap := .empty
  stamps : ByteMap := .empty
  deriving DecidableEq

/-- A failure of the environment that keeps the maps. -/
inductive EnvironmentError where
  | engine (text : String)
  | io (text : String)
  | notFound (key : String)
  | undecodable (text : String)
  | versionMismatch (found expected : UInt32)
  deriving DecidableEq, Repr

namespace EnvironmentError

def message : EnvironmentError → String
  | .engine text => s!"LMDB error: {text}"
  | .io text => s!"io error: {text}"
  | .notFound key => s!"key not found: {key}"
  | .undecodable text => s!"serialization error: {text}"
  | .versionMismatch found expected =>
    s!"schema version {found} is not supported (expected {expected})"

/-- The failure as the store's own. -/
def toStoreError : EnvironmentError → StoreError
  | .notFound key => .notFound key
  | .undecodable text => .undecodable text
  | e@(.versionMismatch _ _) => .corruption e.message
  | e => .backend e.message

end EnvironmentError

/-- The bytes of a key written in letters of one byte each. -/
def keyBytes (s : String) : List UInt8 :=
  s.toList.map fun c => c.toNat.toUInt8

namespace ByteMaps

def get (m : ByteMaps) : MapName → ByteMap
  | .config => m.config
  | .nominees => m.nominees
  | .candidates => m.candidates
  | .board => m.board
  | .stamps => m.stamps

def modify (m : ByteMaps) (name : MapName) (f : ByteMap → ByteMap) : ByteMaps :=
  match name with
  | .config => { m with config := f m.config }
  | .nominees => { m with nominees := f m.nominees }
  | .candidates => { m with candidates := f m.candidates }
  | .board => { m with board := f m.board }
  | .stamps => { m with stamps := f m.stamps }

/-! ### The version stamp -/

def versionKey : List UInt8 := keyBytes "schema_version"

/-- The version of the layout that this library reads and writes. -/
def currentVersion : UInt32 := 1

/-- The version of a stamp of four bytes. -/
def readVersion (bytes : List UInt8) : Except EnvironmentError UInt32 :=
  if bytes.length = 4 then .ok (UInt32.ofNat (Layout.ofBytes bytes))
  else .error (.undecodable "schema_version has unexpected byte length")

/-- The stamped version, zero without a stamp. -/
def version (m : ByteMaps) : Except EnvironmentError UInt32 :=
  match m.stamps.find? versionKey with
  | some bytes => readVersion bytes
  | none => .ok 0

/-- The maps once opened: stamped with the current version, unless stamped with another. -/
def opened (m : ByteMaps) : Except EnvironmentError ByteMaps :=
  match m.stamps.find? versionKey with
  | some bytes => do
    let found ← readVersion bytes
    if found = currentVersion then return m
    else throw (.versionMismatch found currentVersion)
  | none =>
    .ok { m with stamps := m.stamps.insert versionKey (Layout.word32.write currentVersion) }

/-! ### Records -/

def configKey : List UInt8 := keyBytes "config"

/-- The record of a value. -/
def decode {α : Type} (layout : Layout α) (bytes : List UInt8) : Except StoreError α :=
  match layout.decode? bytes with
  | some a => .ok a
  | none => .error (.undecodable "undecodable record")

/-- The record under a key. -/
def record {α : Type} (layout : Layout α) (map : ByteMap) (key : List UInt8) :
    Except StoreError (Option α) :=
  match map.find? key with
  | some bytes => some <$> decode layout bytes
  | none => .ok none

/-- The records of a map in the order of their keys. -/
def records {α : Type} (layout : Layout α) (map : ByteMap) : Except StoreError (List α) :=
  map.values.mapM (decode layout)

/-- The maps after one change. -/
def change (m : ByteMaps) : Change → ByteMaps
  | .putConfig config => { m with config := m.config.insert configKey (Config.layout.write config) }
  | .putNominee nominee =>
    { m with nominees := m.nominees.insert nominee.name.keyBytes (Nominee.layout.write nominee) }
  | .dropNominee name => { m with nominees := m.nominees.erase name.keyBytes }
  | .putCandidate candidate =>
    { m with
      candidates :=
        m.candidates.insert candidate.name.keyBytes (Candidate.layout.write candidate) }
  | .dropCandidate name => { m with candidates := m.candidates.erase name.keyBytes }
  | .clearCandidates => { m with candidates := .empty }
  | .putMember member =>
    { m with board := m.board.insert member.name.keyBytes (Member.layout.write member) }
  | .dropMember name => { m with board := m.board.erase name.keyBytes }

/-- The maps after a list of changes, in order. -/
def after (m : ByteMaps) (changes : List Change) : ByteMaps :=
  changes.foldl change m

end ByteMaps

/-- Byte maps on disk, and whether they are open. A store that could not be opened reads as empty.
-/
structure ByteStore where
  disk : ByteMaps
  isOpen : Bool
  deriving DecidableEq

namespace ByteStore

/-- A newly created store. -/
def fresh : ByteStore :=
  match ({} : ByteMaps).opened with
  | .ok disk => ⟨disk, true⟩
  | .error _ => ⟨{}, false⟩

/-- What can be read. -/
def maps (s : ByteStore) : ByteMaps :=
  if s.isOpen then s.disk else {}

/-- The store closed and opened again. -/
def reopen (s : ByteStore) : Except EnvironmentError Unit × ByteStore :=
  match s.disk.opened with
  | .ok disk => (.ok (), ⟨disk, true⟩)
  | .error e => (.error e, { s with isOpen := false })

/-- The longest key that the maps take; the empty key is none of theirs. -/
def maxKeyLength : Nat := 511

/-- Writes a value past the records. -/
def putRaw (s : ByteStore) (name : MapName) (key value : List UInt8) :
    Except EnvironmentError Unit × ByteStore :=
  if key = [] ∨ maxKeyLength < key.length then (.error (.engine "unsupported size of key"), s)
  else (.ok (), { s with disk := s.disk.modify name (·.insert key value) })

/-- Removes a value past the records. -/
def eraseRaw (s : ByteStore) (name : MapName) (key : List UInt8) :
    Except EnvironmentError Unit × ByteStore :=
  if key = [] then (.error (.engine "unsupported size of key"), s)
  else (.ok (), { s with disk := s.disk.modify name (·.erase key) })

def apply (s : ByteStore) (changes : List Change) : Except StoreError Unit × ByteStore :=
  if s.isOpen then (.ok (), { s with disk := s.disk.after changes })
  else (.error (.backend "the store is not open"), s)

instance : Store ByteStore where
  config s := ByteMaps.record Config.layout s.maps.config ByteMaps.configKey
  nominee s name := ByteMaps.record Nominee.layout s.maps.nominees name.keyBytes
  nominees s := ByteMaps.records Nominee.layout s.maps.nominees
  candidate s name := ByteMaps.record Candidate.layout s.maps.candidates name.keyBytes
  candidates s := ByteMaps.records Candidate.layout s.maps.candidates
  member s name := ByteMaps.record Member.layout s.maps.board name.keyBytes
  members s := ByteMaps.records Member.layout s.maps.board
  memberCount s := .ok (UInt32.ofNat s.maps.board.size)
  apply := apply

end ByteStore

end TrusteeBoard
