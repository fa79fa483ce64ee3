import TrusteeBoard.Store.Bytes

/-!
# The file of a store

A store is kept in one file, which lays out its maps one after the other as lists of entries.
Another file shows that the store is in use. Both begin with a mark which no text begins with.
-/

namespace TrusteeBoard

open Layout

/-- A byte string with its length in front. -/
def byteString : Layout (List UInt8) where
  write bytes := word64.write (UInt64.ofNat bytes.length) ++ bytes
  read bytes := do
    let (size, bytes) ← word64.read bytes
    splitBytes size.toNat bytes

def ByteMap.layout : Layout ByteMap :=
  (byteString.seq byteString).list.iso OrderedMap.ofList OrderedMap.entries

def ByteMaps.layout : Layout ByteMaps :=
  (ByteMap.layout.seq <| ByteMap.layout.seq <| ByteMap.layout.seq <|
    ByteMap.layout.seq ByteMap.layout).iso
    (fun (config, nominees, candidates, board, stamps) =>
      { config, nominees, candidates, board, stamps })
    fun m => (m.config, m.nominees, m.candidates, m.board, m.stamps)

namespace ByteStore

/-- The bytes that the files of a store begin with. They are not UTF-8. -/
def mark : List UInt8 :=
  [0xde, 0xc0, 0xef, 0xbe]

/-- The bytes of the file of a store. -/
def image (s : ByteStore) : List UInt8 :=
  mark ++ ByteMaps.layout.write s.disk

/-- The store of a file, opened. Without a file, or with an empty one, it is a new store. -/
def ofImage (bytes : List UInt8) : Except EnvironmentError ByteStore :=
  if bytes = [] then .ok fresh
  else
    match mark.isPrefixOf bytes, ByteMaps.layout.decode? (bytes.drop mark.length) with
    | true, some disk => do return ⟨← disk.opened, true⟩
    | _, _ => .error (.engine "the file is no store")

end ByteStore

end TrusteeBoard
