import TrusteeBoard.Pattern.Atom

/-!
# Classes of a pattern

A class stands in brackets. Its members are atoms, ranges, named classes and classes within, and
signs between rows of members join, cut or subtract what they hold. `read` also finds how deep a
class goes.
-/

namespace TrusteeBoard.Pattern.Class

/-! ### Depth -/

/-- What has been read of a class. -/
structure Members where
  /-- The number of members of the last row. -/
  count : Nat := 0
  /-- The depth of the deepest member of the last row. -/
  deepest : Nat := 0
  /-- The depth of what stands before the last sign. -/
  before : Option Nat := none

namespace Members

/-- Adds a member of some depth. -/
def add (m : Members) (depth : Nat) : Members :=
  { m with count := m.count + 1, deepest := max m.deepest depth }

/-- The depth of the last row. A row of members is one deeper than they are. -/
def rowDepth (m : Members) : Nat :=
  if m.count ≤ 1 then m.deepest else m.deepest + 1

/-- The depth of all rows. Each sign is one deeper than what stands on its sides, and all that
stands before it is on its left. -/
def depth (m : Members) : Nat :=
  match m.before with
  | none => m.rowDepth
  | some depth => max depth m.rowDepth + 1

/-- Begins the row after a sign. -/
def next (m : Members) : Members :=
  { before := some m.depth }

end Members

/-! ### Reading -/

/-- The names that a class may have. -/
def names : List String :=
  ["alnum", "alpha", "ascii", "blank", "cntrl", "digit", "graph", "lower", "print", "punct",
    "space", "upper", "word", "xdigit"]

/-- Reads a named class after its bracket, and whether it is negated. -/
def readNamed : List Char → Option (Bool × List Char)
  | ':' :: cs =>
    let negated := cs.head? = some '^'
    let cs := if negated then cs.tail else cs
    match cs.dropWhile (· ≠ ':') with
    | ':' :: ']' :: rest =>
      if names.contains (String.ofList (cs.takeWhile (· ≠ ':'))) then some (negated, rest) else none
    | _ => none
  | _ => none

/-- Whether a named class can be matched. -/
def takesNamed (s : Switches) (negated : Bool) : Bool :=
  if s.unicode then !s.caseless else !negated

/-- Whether a dash after a member is a member too, and makes no range: another dash or the end of
the class follows it. Of a comment that follows, the first character counts. -/
def isMemberDash (s : Switches) (cs : List Char) : Bool :=
  let next :=
    if s.spaced then
      match cs.dropWhile Text.isWhitespace with
      | '#' :: comment => (comment.dropWhile Text.isWhitespace).head?
      | cs => cs.head?
    else cs.head?
  next = some ']' || next = some '-'

/-- Reads a member of a class or a range of members. -/
def readMember (s : Switches) (cs : List Char) : Option (List Char) := do
  let (first, cs) ← Atom.read s cs
  let single := if first.isMember s then some (s.skipBlanks cs) else none
  match s.skipBlanks cs with
  | '-' :: rest =>
    if isMemberDash s rest then single
    else
      let (last, rest) ← Atom.read s (s.skipBlanks rest)
      if (← first.char?) ≤ (← last.char?) ∧ first.isMember s ∧ last.isMember s then some rest
      else none
  | _ => single

/-- Reads dashes and the blanks after them as members. -/
def readDashes (s : Switches) : (fuel : Nat) → Members → List Char → Members × List Char
  | fuel + 1, m, '-' :: cs => readDashes s fuel (m.add 0) (s.skipBlanks cs)
  | _, m, cs => (m, cs)

/-- Reads the beginning of a class after its bracket. Dashes that come first are members, and
without them a closing bracket is one. -/
def readOpening (s : Switches) (cs : List Char) : Option (Members × List Char) :=
  let cs := s.skipBlanks cs
  let negated := cs.head? = some '^'
  let cs := if negated then s.skipBlanks cs.tail else cs
  let (members, rest) := match cs with
    | ']' :: cs => (Members.add {} 0, cs)
    | cs => readDashes s cs.length {} cs
  if (negated && !s.unicode) || (members.count ≠ 0 && s.unicode && s.caseless) then none
  else some (members, rest)

/-- Reads the rest of a class that lies within others, and gives its depth and what follows it. -/
def readRest (s : Switches) :
    (fuel : Nat) → (members : Members) → (around : List Members) → List Char →
      Option (Nat × List Char)
  | 0, _, _, _ => none
  | fuel + 1, members, around, cs =>
    match s.skipBlanks cs with
    | [] => none
    | '[' :: cs =>
      match readNamed cs with
      | some (negated, cs) =>
        if takesNamed s negated then readRest s fuel (members.add 0) around cs else none
      | none => do
        let (within, cs) ← readOpening s cs
        readRest s fuel within (members :: around) cs
    | ']' :: cs =>
      match around with
      | [] => some (members.depth + 1, cs)
      | outer :: around => readRest s fuel (outer.add (members.depth + 1)) around cs
    | '&' :: '&' :: cs | '-' :: '-' :: cs | '~' :: '~' :: cs =>
      readRest s fuel members.next around cs
    | cs => readMember s cs >>= readRest s fuel (members.add 0) around

/-- Reads a class after its bracket, and gives its depth and what follows it. -/
def read (s : Switches) (cs : List Char) : Option (Nat × List Char) := do
  let (members, rest) ← readOpening s cs
  readRest s (rest.length + 1) members [] rest

end TrusteeBoard.Pattern.Class
