/-!
# Record layouts

A `Layout α` writes a value as bytes and reads one from the front of a byte string, answering with
the bytes after it. Numbers are little-endian at a fixed width, text and lists carry their length in
front, an optional value a tag of one byte and a case its index in four. Layouts are put together
with `seq`, `refine` and `list`.
-/

namespace TrusteeBoard

/-- How values of a type are laid out as bytes. -/
structure Layout (α : Type) where
  write : α → List UInt8
  read : List UInt8 → Option (α × List UInt8)

namespace Layout

variable {α β : Type}

/-- The value at the front of a byte string; bytes after it are ignored. -/
def decode? (l : Layout α) (bytes : List UInt8) : Option α :=
  (l.read bytes).map (·.1)

/-! ### Combinators -/

/-- One value after the other. -/
def seq (l : Layout α) (m : Layout β) : Layout (α × β) where
  write p := l.write p.1 ++ m.write p.2
  read bytes := do
    let (a, bytes) ← l.read bytes
    let (b, bytes) ← m.read bytes
    return ((a, b), bytes)

/-- The layout of what a value stands for; a value that stands for nothing is not read. -/
def refine (l : Layout α) (ofValue? : α → Option β) (toValue : β → α) : Layout β where
  write b := l.write (toValue b)
  read bytes := do
    let (a, bytes) ← l.read bytes
    let b ← ofValue? a
    return (b, bytes)

def iso (l : Layout α) (ofValue : α → β) (toValue : β → α) : Layout β :=
  l.refine (fun a => some (ofValue a)) toValue

/-! ### Numbers -/

/-- The lowest `width` bytes of a number, lowest first. -/
def bytesOf : Nat → Nat → List UInt8
  | 0, _ => []
  | width + 1, n => UInt8.ofNat (n % 256) :: bytesOf width (n / 256)

/-- The number of a list of bytes, lowest first. -/
def ofBytes : List UInt8 → Nat
  | [] => 0
  | b :: rest => b.toNat + 256 * ofBytes rest

/-- The first `n` bytes and the others. -/
def splitBytes (n : Nat) (bytes : List UInt8) : Option (List UInt8 × List UInt8) :=
  if n ≤ bytes.length then some (bytes.take n, bytes.drop n) else none

/-- A number of `width` bytes. -/
def number (width : Nat) : Layout Nat where
  write n := bytesOf width n
  read bytes := do
    let (front, rest) ← splitBytes width bytes
    return (ofBytes front, rest)

def byte : Layout UInt8 := (number 1).iso UInt8.ofNat UInt8.toNat

def word16 : Layout UInt16 := (number 2).iso UInt16.ofNat UInt16.toNat

def word32 : Layout UInt32 := (number 4).iso UInt32.ofNat UInt32.toNat

def word64 : Layout UInt64 := (number 8).iso UInt64.ofNat UInt64.toNat

def word128 : Layout (BitVec 128) := (number 16).iso (BitVec.ofNat 128) BitVec.toNat

def bool : Layout Bool :=
  byte.refine (fun b => if b = 0 then some false else if b = 1 then some true else none)
    fun b => if b then 1 else 0

/-! ### Text, lists, optional values and cases -/

def utf8Bytes (s : String) : List UInt8 :=
  s.toUTF8.data.toList

def ofUtf8Bytes? (bytes : List UInt8) : Option String :=
  String.fromUTF8? ⟨bytes.toArray⟩

def string : Layout String where
  write s := word64.write (UInt64.ofNat (utf8Bytes s).length) ++ utf8Bytes s
  read bytes := do
    let (size, bytes) ← word64.read bytes
    let (front, rest) ← splitBytes size.toNat bytes
    let s ← ofUtf8Bytes? front
    return (s, rest)

def readMany (l : Layout α) : Nat → List UInt8 → Option (List α × List UInt8)
  | 0, bytes => some ([], bytes)
  | n + 1, bytes => do
    let (a, bytes) ← l.read bytes
    let (rest, bytes) ← readMany l n bytes
    return (a :: rest, bytes)

def list (l : Layout α) : Layout (List α) where
  write items := word64.write (UInt64.ofNat items.length) ++ items.flatMap l.write
  read bytes := do
    let (count, bytes) ← word64.read bytes
    readMany l count.toNat bytes

def option (l : Layout α) : Layout (Option α) where
  write
    | none => [0]
    | some a => 1 :: l.write a
  read
    | 0 :: bytes => some (none, bytes)
    | 1 :: bytes => do
      let (a, bytes) ← l.read bytes
      return (some a, bytes)
    | _ => none

/-- The cases of a type without content, by their index in a list. -/
def cases [BEq α] (all : List α) : Layout α :=
  word32.refine (fun i => all[i.toNat]?) fun a => UInt32.ofNat (all.idxOf a)

end Layout

end TrusteeBoard
