/-!
# Bytes shown as text

`lossy` reads bytes as UTF-8. Where they are none, each longest beginning of a sequence, or else a
single byte, becomes one replacement character.
-/

namespace TrusteeBoard.Text

def isContinuation (b : UInt8) : Bool :=
  0x80 ≤ b && b ≤ 0xBF

/-- The length of the sequence that a byte begins, with the bounds of the byte after it. -/
def sequence? (b : UInt8) : Option (Nat × UInt8 × UInt8) :=
  if 0xC2 ≤ b && b ≤ 0xDF then some (2, 0x80, 0xBF)
  else if b = 0xE0 then some (3, 0xA0, 0xBF)
  else if b = 0xED then some (3, 0x80, 0x9F)
  else if 0xE1 ≤ b && b ≤ 0xEF then some (3, 0x80, 0xBF)
  else if b = 0xF0 then some (4, 0x90, 0xBF)
  else if 0xF1 ≤ b && b ≤ 0xF3 then some (4, 0x80, 0xBF)
  else if b = 0xF4 then some (4, 0x80, 0x8F)
  else none

/-- The character of a sequence of bytes. -/
def ofSequence (first : UInt8) (others : List UInt8) : Char :=
  let lead := match others.length with
    | 1 => first.toNat % 32
    | 2 => first.toNat % 16
    | _ => first.toNat % 8
  Char.ofNat (others.foldl (fun n b => n * 64 + b.toNat % 64) lead)

/-- The bytes after the first that belong to its sequence, as far as they are there. -/
def sequenceRest (size : Nat) (low high : UInt8) (rest : List UInt8) : List UInt8 :=
  match rest with
  | [] => []
  | second :: rest =>
    if low ≤ second && second ≤ high then
      second :: (rest.take (size - 2)).takeWhile isContinuation
    else []

/-- The first character of some bytes, and how many of the bytes after the first belong to it. -/
def lossyChar (b : UInt8) (rest : List UInt8) : Char × Nat :=
  if b < 0x80 then (Char.ofNat b.toNat, 0)
  else
    match sequence? b with
    | none => ('\ufffd', 0)
    | some (size, low, high) =>
      let others := sequenceRest size low high rest
      if others.length + 1 = size then (ofSequence b others, others.length)
      else ('\ufffd', others.length)

def lossyChars : List UInt8 → List Char
  | [] => []
  | b :: rest => (lossyChar b rest).1 :: lossyChars (rest.drop (lossyChar b rest).2)
termination_by bytes => bytes.length
decreasing_by
  simp only [List.length_drop, List.length_cons]
  omega

def lossy (bytes : List UInt8) : String :=
  String.ofList (lossyChars bytes)

end TrusteeBoard.Text
