import TrusteeBoard.Pattern.Class
import TrusteeBoard.Text.Alphanumeric

/-!
# Groups of a pattern

A pattern is a group of branches, and each branch is a row of parts: atoms, classes, repetitions and
groups in parentheses. `isPattern` says whether a text is a pattern that can be matched. A group may
have a name or switches of its own; switches may also be turned within a group, for what is left of
it. Parts lie within one another up to a limit.
-/

namespace TrusteeBoard.Pattern

/-- How deep parts of a pattern may lie within one another. -/
def nestingLimit : Nat := 250

/-- What has been read of a group. -/
structure Branches where
  /-- The number of parts of the last branch. -/
  parts : Nat := 0
  /-- The depth of the deepest part of the last branch. -/
  deepest : Nat := 0
  /-- The depth of the last part, if it can be repeated. -/
  last : Option Nat := none
  /-- The depth of the deepest branch before the last one. -/
  earlier : Option Nat := none

namespace Branches

/-- Adds a part of some depth. -/
def add (b : Branches) (depth : Nat) : Branches :=
  { b with parts := b.parts + 1, deepest := max b.deepest depth, last := some depth }

/-- Adds switches, which nothing can repeat. -/
def addSwitches (b : Branches) : Branches :=
  { b with parts := b.parts + 1, last := none }

/-- Repeats the last part. -/
def repeat? (b : Branches) : Option Branches := do
  let depth := (← b.last) + 1
  return { b with deepest := max b.deepest depth, last := some depth }

/-- The depth of the last branch. A row of parts is one deeper than they are. -/
def branchDepth (b : Branches) : Nat :=
  if b.parts ≤ 1 then b.deepest else b.deepest + 1

/-- Begins another branch. -/
def next (b : Branches) : Branches :=
  { earlier := some (max (b.earlier.getD 0) b.branchDepth) }

/-- The depth of all branches. A choice of branches is one deeper than they are. -/
def depth (b : Branches) : Nat :=
  match b.earlier with
  | none => b.branchDepth
  | some depth => max depth b.branchDepth + 1

end Branches

/-! ### Reading -/

/-- A group that is being read, with its switches. -/
structure Group where
  switches : Switches := {}
  branches : Branches := {}

/-- The groups that are being read, and the names so far. -/
structure Reading where
  group : Group := {}
  /-- The groups around it, the innermost first. -/
  around : List Group := []
  names : List (List Char) := []

namespace Reading

/-- Changes the branches of the group that is being read. -/
def withBranches (r : Reading) (branches : Branches) : Reading :=
  { r with group := { r.group with branches } }

/-- Adds a part of some depth. -/
def add (r : Reading) (depth : Nat) : Reading :=
  r.withBranches (r.group.branches.add depth)

/-- Enters a group with switches. -/
def enter (r : Reading) (switches : Switches) : Reading :=
  { r with group := { switches }, around := r.group :: r.around }

/-- Leaves a group, and goes back to the switches around it. -/
def leave? (r : Reading) : Option Reading :=
  match r.around with
  | [] => none
  | group :: around =>
    some (Reading.add { r with group, around } (r.group.branches.depth + 1))

/-! ### Names and switches -/

/-- Whether a group may have a name. -/
def isName : List Char → Bool
  | [] => false
  | c :: cs =>
    (c = '_' || Text.isAlphabetic c) &&
      cs.all fun c => c = '_' || c = '.' || c = '[' || c = ']' || Text.isAlphanumeric c

/-- Enters a group with a name, which ends at an angle bracket. -/
def enterNamed? (r : Reading) (cs : List Char) : Option (Reading × List Char) :=
  let name := cs.takeWhile (· ≠ '>')
  match cs.dropWhile (· ≠ '>') with
  | '>' :: rest =>
    if isName name && !r.names.contains name then
      some ({ r.enter r.group.switches with names := name :: r.names }, rest)
    else none
  | _ => none

/-- The letters of switches, and the sign before those that are turned off. -/
def switchLetters : List Char :=
  ['-', 'i', 'm', 's', 'U', 'u', 'R', 'x']

/-- Reads the letters of switches after some others, none of them twice, and the sign that ends
them. -/
def readSwitches (before : List Char) : List Char → Option (List Char × Char × List Char)
  | [] => none
  | c :: cs =>
    if c = ':' ∨ c = ')' then
      if before.getLast? = some '-' then none else some (before, c, cs)
    else if switchLetters.contains c && !before.contains c then readSwitches (before ++ [c]) cs
    else none

/-- Turns switches on or off by their letters. -/
def turn (s : Switches) (on : Bool) : List Char → Switches
  | [] => s
  | '-' :: letters => turn s false letters
  | 'i' :: letters => turn { s with caseless := on } on letters
  | 'u' :: letters => turn { s with unicode := on } on letters
  | 'x' :: letters => turn { s with spaced := on } on letters
  | _ :: letters => turn s on letters

/-- Reads switches of a group, or of what is left of the group around. -/
def readTurn? (r : Reading) (cs : List Char) : Option (Reading × List Char) := do
  let (letters, stop, rest) ← readSwitches [] cs
  let switches := turn r.group.switches true letters
  if stop = ':' then return (r.enter switches, rest)
  else if letters.isEmpty then none
  else return ({ r with group := ⟨switches, r.group.branches.addSwitches⟩ }, rest)

/-- Reads what begins with a parenthesis, after it. -/
def open? (r : Reading) (cs : List Char) : Option (Reading × List Char) :=
  match r.group.switches.skipBlanks cs with
  | '?' :: 'P' :: '<' :: cs | '?' :: '<' :: cs => r.enterNamed? cs
  | '?' :: cs => r.readTurn? cs
  | cs => some (r.enter r.group.switches, cs)

/-! ### Parts -/

/-- Repeats the last part. A question mark after the sign asks for as few times as can be. -/
def repeat? (r : Reading) (cs : List Char) : Option (Reading × List Char) := do
  let branches ← r.group.branches.repeat?
  return (r.withBranches branches, if cs.head? = some '?' then cs.tail else cs)

/-- Reads one part that begins with a character. Braces are not read. -/
def part? (r : Reading) (c : Char) (cs : List Char) : Option (Reading × List Char) :=
  let s := r.group.switches
  match c with
  | '(' => r.open? cs
  | ')' => r.leave?.map (·, cs)
  | '|' => some (r.withBranches r.group.branches.next, cs)
  | '?' | '*' | '+' => r.repeat? cs
  | '\x7b' => none
  | '^' | '$' => some (r.add 0, cs)
  | '.' => if s.unicode then some (r.add 0, cs) else none
  | '[' => do
    let (depth, cs) ← Class.read s cs
    return (r.add depth, cs)
  | _ => do
    let (atom, cs) ← Atom.read s (c :: cs)
    if atom.isMatchable s then return (r.add 0, cs) else none

/-- Reads parts up to the end, and says whether they make a pattern. -/
def isPattern : (fuel : Nat) → Reading → List Char → Bool
  | 0, _, _ => false
  | fuel + 1, r, cs =>
    match r.group.switches.skipBlanks cs with
    | [] => r.around.isEmpty && r.group.branches.depth ≤ nestingLimit
    | c :: cs =>
      match r.part? c cs with
      | some (r, cs) => isPattern fuel r cs
      | none => false

end Reading

/-- Whether a text is a pattern that can be matched. -/
def isPattern (cs : List Char) : Bool :=
  Reading.isPattern (cs.length + 1) {} cs

end TrusteeBoard.Pattern
