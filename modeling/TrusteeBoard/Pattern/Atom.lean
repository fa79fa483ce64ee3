import TrusteeBoard.Json.Parser
import TrusteeBoard.Text.Classes

/-!
# Atoms of a pattern

A pattern is a regular expression. Its smallest parts are literals and escapes, and blanks and
comments between them where they are switched on. Patterns are matched without tables of scripts,
so classes of letters, words and their edges, and letters in either case are taken for ASCII only,
which is what a pattern has to ask for. Nothing may match a part of a character.
-/

namespace TrusteeBoard.Pattern

/-- The switches that decide what a pattern means. -/
structure Switches where
  /-- Letters match in either case. -/
  caseless : Bool := false
  /-- Characters are those of all scripts, not bytes. -/
  unicode : Bool := true
  /-- Blanks and comments are left out. -/
  spaced : Bool := false

namespace Switches

/-- Leaves out blanks and comments. A comment goes from a number sign to the end of the line. -/
def skip : (comment : Bool) → List Char → List Char
  | _, [] => []
  | true, c :: cs => skip (c ≠ '\n') cs
  | false, c :: cs =>
    if Text.isWhitespace c then skip false cs
    else if c = '#' then skip true cs
    else c :: cs

/-- Leaves out blanks and comments if they are switched on. -/
def skipBlanks (s : Switches) (cs : List Char) : List Char :=
  if s.spaced then skip false cs else cs

end Switches

/-- A literal or an escape. -/
inductive Atom where
  | char (c : Char)
  /-- A character given as a byte. -/
  | byte (c : Char)
  /-- A class of digits, blanks or letters of words. -/
  | kind (negated : Bool)
  /-- A place between characters, perhaps where a word begins or ends. -/
  | edge (ofWord : Bool)

namespace Atom

/-- The character that an atom stands for. -/
def char? : Atom → Option Char
  | .char c | .byte c => some c
  | _ => none

/-- Whether a class of digits, blanks or letters of words can be matched. -/
def takesKind (s : Switches) (negated : Bool) : Bool :=
  !s.unicode && !negated

/-- Whether an atom can be matched. -/
def isMatchable (s : Switches) : Atom → Bool
  | .char _ => !(s.unicode && s.caseless)
  | .byte c => if s.unicode then !s.caseless else c.toNat < 0x80
  | .kind negated => takesKind s negated
  | .edge ofWord => !(s.unicode && ofWord)

/-- Whether an atom can be matched as a member of a class. -/
def isMember (s : Switches) : Atom → Bool
  | .char c | .byte c => if s.unicode then !s.caseless else c.toNat < 0x80
  | .kind negated => takesKind s negated
  | .edge _ => false

/-- Reads a number of hexadecimal digits, which blanks may follow, after a value. -/
def readHex (s : Switches) : (digits value : Nat) → List Char → Option (Nat × List Char)
  | 0, value, cs => some (value, cs)
  | _ + 1, _, [] => none
  | digits + 1, value, c :: cs => do
    readHex s digits (16 * value + (← Json.hexValue? c)) (s.skipBlanks cs)

/-- Reads a character given by a number of hexadecimal digits. -/
def readCodePoint (s : Switches) (digits : Nat) (cs : List Char) : Option (Char × List Char) := do
  let (value, cs) ← readHex s digits 0 (s.skipBlanks cs)
  if value.isValidChar then return (Char.ofNat value, cs) else none

/-- Reads an escape after its backslash. Braces are not read, since a field ends where one closes.
-/
def readEscape (s : Switches) : List Char → Option (Atom × List Char)
  | [] => none
  | c :: cs =>
    match c with
    | 'x' => do
      let (c, cs) ← readCodePoint s 2 cs
      return (.byte c, cs)
    | 'u' => do
      let (c, cs) ← readCodePoint s 4 cs
      return (.char c, cs)
    | 'U' => do
      let (c, cs) ← readCodePoint s 8 cs
      return (.char c, cs)
    | 'd' | 's' | 'w' => some (.kind false, cs)
    | 'D' | 'S' | 'W' => some (.kind true, cs)
    | 'A' | 'z' => some (.edge false, cs)
    | 'b' | 'B' | '<' | '>' => some (.edge true, cs)
    | 'a' => some (.char '\x07', cs)
    | 'f' => some (.char '\x0c', cs)
    | 'n' => some (.char '\n', cs)
    | 'r' => some (.char '\r', cs)
    | 't' => some (.char '\t', cs)
    | 'v' => some (.char '\x0b', cs)
    | _ => if c.toNat < 0x80 && !c.isAlphanum then some (.char c, cs) else none

/-- Reads a literal or an escape. -/
def read (s : Switches) : List Char → Option (Atom × List Char)
  | [] => none
  | '\\' :: cs => readEscape s cs
  | c :: cs => some (.char c, cs)

end Atom

end TrusteeBoard.Pattern
