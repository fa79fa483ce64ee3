import TrusteeBoard.CommandLine.Run

/-!
# A directory in memory

A working directory for `run`: files and directories by the parts of their paths. It lies two levels
below the root. Outside of it little is there: the null device, the list of accounts, and the
directories of the kernel, where nothing can be made. Paths are followed part by part, as a file
system does, and directories are made one at a time.
-/

namespace TrusteeBoard.CommandLine

/-- The parts of a path from the working directory on. A path from the root on has the root's own
part, `/`, first. -/
abbrev Path : Type := List String

/-- Why a path leads nowhere. -/
inductive Obstacle where
  /-- A part of the path is missing. -/
  | missing
  /-- Something is there already. -/
  | taken
  /-- What is there is no directory, or nothing can have such a name. -/
  | blocked
  deriving DecidableEq

/-- A working directory with its files, the directories made in it, and what is outside of it. -/
structure Directory where
  files : List (Path × List UInt8) :=
    [ (["/", "dev", "null"], []),
      (["/", "etc", "passwd"], Layout.utf8Bytes "root:x:0:0:root:/root:/bin/sh\n") ]
  made : List Path := []
  /-- Directories in which nothing can be made. -/
  closed : List Path := [["/", "proc"], ["/", "sys"]]

namespace Directory

/-! ### Paths -/

/-- The number of bytes that a path as it is written has to stay below. -/
def pathLimit : Nat := 4096

/-- The bytes of the path from the root to the working directory, with a stroke at its end. -/
def placeSize : Nat := 16

/-- Names that a file system takes. -/
def isName (part : String) : Bool :=
  part.utf8ByteSize ≤ 255 && !part.contains '\x00'

/-- The parts of a path as it is written, empty ones and dots among them. -/
def parts (path : String) : Path :=
  if path.startsWith "/" then "/" :: path.splitOn "/" else path.splitOn "/"

/-- The parts of a path that name something. A first dot does. -/
def components : Path → Path
  | [] => []
  | part :: parts => part :: parts.filter fun part => part ≠ "" && part ≠ "."

/-- A path and the directories on the way to it, the path itself first. -/
def ancestors (path : Path) : List Path :=
  let above := (components path).dropLast
  path :: (List.range above.length).map fun n => above.take (above.length - n)

/-- The directory above another. The root is above itself. -/
def parent : Path → Path
  | [] => [".."]
  | [".."] | ["/"] => ["/"]
  | path => path.dropLast

/-- A path as it is written. -/
def written (path : Path) : String :=
  if path = [] then "." else "/".intercalate path

/-! ### Reading -/

/-- The content of a file. -/
def file? (d : Directory) (path : Path) : Option (List UInt8) :=
  d.files.lookup path

/-- Whether a directory is there: the working directory or the one above it, one made, a closed one,
or one that something is in. -/
def isDirectory (d : Directory) (path : Path) : Bool :=
  path = [] || path = [".."] || d.made.contains path || d.closed.contains path ||
    d.files.any fun f => path.isPrefixOf f.1 && f.1 != path

/-- Follows the parts of a path from `here` on. -/
def follow (d : Directory) : (here parts : Path) → Except Obstacle Path
  | here, [] => .ok here
  | here, part :: parts =>
    if !d.isDirectory here || !isName part then .error .blocked
    else if part = "" ∨ part = "." then d.follow here parts
    else if part = ".." then d.follow (parent here) parts
    else
      let next := here ++ [part]
      if d.isDirectory next || (d.file? next).isSome then d.follow next parts
      else .error .missing

/-- Follows a path as it is written. -/
def resolve (d : Directory) (path : String) : Except Obstacle Path :=
  if path.utf8ByteSize < pathLimit then d.follow [] (parts path) else .error .blocked

def readFile (path : String) (d : Directory) : Option (List UInt8) :=
  (d.resolve path).toOption >>= d.file?

/-! ### Writing -/

/-- Makes one directory in another which is there. -/
def make (path : Path) (d : Directory) : Except Obstacle Directory := do
  let path := path.filter (· ≠ "")
  let some name := path.getLast? | throw .taken
  let here ← d.follow [] path.dropLast
  if !d.isDirectory here then throw .blocked
  if name = "." ∨ name = ".." then throw .taken
  if !isName name then throw .blocked
  let path := here ++ [name]
  if d.isDirectory path || (d.file? path).isSome then throw .taken
  if d.closed.any (·.isPrefixOf here) then throw .blocked
  return { d with made := path :: d.made }

/-- The directory itself, if a path could not be made only because it leads to a directory. -/
def present? (path : Path) (e : Obstacle) (d : Directory) : Option Directory :=
  if e = .taken ∧ (d.follow [] path).toOption.any d.isDirectory then some d else none

/-- The directory with the first of some paths made, and before it those of the others that are
missing. A directory that is there already counts as made. -/
def makeAll : List Path → Directory → Option Directory
  | [], d => some d
  | path :: above, d =>
    match d.make path with
    | .ok d => some d
    | .error .missing => do
      let d ← makeAll above d
      match d.make path with
      | .ok d => some d
      | .error e => present? path e d
    | .error e => present? path e d

/-- The directory with one more made, and those on the way to it, and the way that leads straight
to it. -/
def makeDirectory? (path : String) (d : Directory) : Option (String × Directory) := do
  if pathLimit ≤ path.utf8ByteSize then none
  else
    let d ← makeAll (ancestors (parts path)) d
    return (written (← (d.follow [] (parts path)).toOption), d)

/-- The directory with the content of a file set, if there is a place for it. The path leads
straight to the file, and the path from the root has to be short enough. -/
def writeFile? (path : String) (bytes : List UInt8) (d : Directory) : Option Directory := do
  let name ← (parts path).getLast?
  let here ← (d.follow [] (parts path).dropLast).toOption
  let place := here ++ [name]
  if pathLimit ≤ placeSize + path.utf8ByteSize ∨ !d.isDirectory here ∨ d.isDirectory place ∨
      d.closed.any (·.isPrefixOf here) then none
  else return { d with files := (place, bytes) :: d.files.filter (·.1 != place) }

/-- The directory with a file put into it, wherever its path leads. -/
def withFile (d : Directory) (path : String) (bytes : List UInt8) : Directory :=
  { d with files := (components (parts path), bytes) :: d.files }

/-- The directory with a store put into it. -/
def withStore (d : Directory) (path : String) (store : ByteStore) : Directory :=
  Option.getD (do
    let (dir, d) ← makeDirectory? path d
    writeFile? (lockFile dir) ByteStore.mark d >>= writeFile? (storeFile dir) store.image) d

/-! ### Surroundings -/

/-- Carries out a change of the directory if it is possible, and gives what comes of it. -/
def attempt {α : Type} (change : Directory → Option (α × Directory)) :
    StateM Directory (Option α) := do
  match change (← get) with
  | some (a, d) => do
    set d
    return some a
  | none => return none

/-- The surroundings that a directory and a time make. -/
def surroundings (now : Timestamp) : Surroundings (StateM Directory) where
  readFile path := do return readFile path (← get)
  writeFile path bytes := Option.isSome <$> attempt fun d => ((), ·) <$> writeFile? path bytes d
  makeDirectory path := attempt (makeDirectory? path)
  now := return now

end Directory

end TrusteeBoard.CommandLine
