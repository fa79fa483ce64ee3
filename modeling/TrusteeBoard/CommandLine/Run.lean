import TrusteeBoard.CommandLine.Arguments
import TrusteeBoard.DryRun
import TrusteeBoard.LogFilter
import TrusteeBoard.Settings.File
import TrusteeBoard.Status
import TrusteeBoard.Store.Image
import TrusteeBoard.Store.Integrity

/-!
# Carrying out a command

`run` carries out a command line in any monad that can reach files and a clock, and answers with the
output or with a `Failure`. Settings come first: those of the file, what the command line replaces,
and the settings on logging, which are checked before the command begins.
-/

namespace TrusteeBoard.CommandLine

/-- What a command needs of the place where it runs. A path that cannot be read gives `none`, and
what cannot be written gives `false`. -/
structure Surroundings (m : Type → Type) where
  readFile : String → m (Option (List UInt8))
  writeFile : String → List UInt8 → m Bool
  /-- Makes a directory and those on the way to it, where they are missing, and gives a path that
  leads straight to it. -/
  makeDirectory : String → m (Option String)
  now : m Timestamp

/-- Why a command fails. -/
inductive Failure where
  | usage
  | settingsFile (path : String)
  | logFormat (raw : String)
  | logFilter (raw : String)
  /-- A directive of a log filter is cut inside a character. -/
  | brokenCharacter
  | tiePolicy (raw : String)
  | unreadableTally (path : String)
  | malformedTally (path : String)
  | unopenedStore (dir : String)
  | store (e : StoreError)
  /-- The integrity check found bad records. -/
  | unhealthy (report : IntegrityReport)
  deriving DecidableEq

namespace Failure

def message : Failure → String
  | .usage => "usage"
  | .settingsFile path => s!"loading settings from {path}"
  | .logFormat raw => LogFormat.unknownMessage "log format" raw
  | .logFilter raw => s!"invalid log filter: {raw}"
  | .brokenCharacter => "a directive is cut inside a character"
  | .tiePolicy raw =>
    s!"unknown tie policy {Text.quoted raw}, expected \"exclude_tied\" or \"boundary_only\""
  | .unreadableTally path => s!"reading tally {path}"
  | .malformedTally path => s!"parsing tally {path}"
  | .unopenedStore dir => s!"opening store at {dir}"
  | .store e => e.message
  | .unhealthy report => s!"integrity check found {report.badRecords.length} problem(s)"

def exitCode : Failure → UInt32
  | .usage => 2
  | .brokenCharacter => 101
  | _ => 1

/-- The first line of the message. A carriage return at its end is left out. No message is given
where a directive breaks off. -/
def headline? (f : Failure) : Option String :=
  let line := f.message.toList.takeWhile (· ≠ '\n')
  if f = .brokenCharacter then none
  else some (String.ofList (if line.getLast? = some '\r' then line.dropLast else line))

end Failure

/-- A value as printed: on indented lines. -/
def printed (j : Json) : String :=
  j.pretty ++ "\n"

/-- What is printed before a failure: an integrity report is. -/
def Failure.output : Failure → String
  | .unhealthy report => printed report.toJson
  | _ => ""

section

variable {m : Type → Type} [Monad m] (around : Surroundings m)

/-- The text of a file, if it can be read and is UTF-8. -/
def Surroundings.readText (path : String) : m (Option String) := do
  return (← around.readFile path) >>= Layout.ofUtf8Bytes?

/-! ### Settings -/

def Invocation.settings (i : Invocation) : ExceptT Failure m Settings := do
  let base ← match i.settingsFile with
    | none => pure {}
    | some path =>
      match (← around.readText path).map Settings.ofFileText with
      | some (.ok s) => pure s
      | _ => throw (.settingsFile path)
  return { base with
    dataDir := i.dataDir.getD base.dataDir
    logLevel := i.logLevel.getD base.logLevel
    logFormat := i.logFormat.getD base.logFormat }

/-- Passes a log filter that can be used. -/
def checkFilter (filter : String) : Except Failure Unit :=
  match LogFilter.check filter with
  | .ok () => .ok ()
  | .error .malformed => .error (.logFilter filter)
  | .error .brokenCharacter => .error .brokenCharacter

/-- Passes settings on logging that can be used. A filter of the environment stands in for the level
of the settings unless it is malformed. -/
def checkLogging (environment : Options) (s : Settings) : Except Failure Unit := do
  let .ok _ := LogFormat.parse s.logFormat | throw (.logFormat s.logFormat)
  match (environment.value? filterVariable).map LogFilter.check with
  | some (.ok ()) => return
  | some (.error .brokenCharacter) => throw .brokenCharacter
  | _ => checkFilter s.logLevel

/-! ### Stores -/

/-- The file of the store in its directory. -/
def storeFile (dir : String) : String :=
  dir ++ "/data.mdb"

/-- The file that shows that the store in a directory is in use. -/
def lockFile (dir : String) : String :=
  dir ++ "/lock.mdb"

/-- The least map size in bytes that does not fit the address space beside the program. -/
def mapSizeLimit : Nat := 0x560000000000

/-- Opens the store in the directory that the settings name. A new store is written at once. -/
def openStore (s : Settings) : ExceptT Failure m ByteStore := do
  let failure := Failure.unopenedStore s.dataDir
  if s.dataDir = "" ∨ mapSizeLimit ≤ s.mapSizeBytes.toNat then throw failure
  let some dir ← around.makeDirectory s.dataDir | throw failure
  unless ← around.writeFile (lockFile dir) ByteStore.mark do throw failure
  let bytes := (← around.readFile (storeFile dir)).getD []
  let .ok store := ByteStore.ofImage bytes | throw failure
  unless bytes = store.image do
    unless ← around.writeFile (storeFile dir) store.image do throw failure
  return store

/-! ### Commands -/

def tiePolicy (s : Settings) : Option String → Except Failure TiePolicy
  | none => .ok s.tiePolicy
  | some raw =>
    match TiePolicy.ofCaseName? raw with
    | some policy => .ok policy
    | none => .error (.tiePolicy raw)

def readTally (path : String) : ExceptT Failure m Tally := do
  let some text ← around.readText path | throw (.unreadableTally path)
  let some tally := Json.parse? text >>= Tally.ofJson? | throw (.malformedTally path)
  return tally

/-- Carries out a command and answers with its output. -/
def Command.run (settings : Settings) : Command → ExceptT Failure m String
  | .status => do
    let store ← openStore around settings
    match Status.ofStore store (← around.now) with
    | .ok report => return printed report.toJson
    | .error e => throw (.store e)
  | .check => do
    let report := (← openStore around settings).maps.checkIntegrity
    if report.isHealthy then return printed report.toJson else throw (.unhealthy report)
  | .resolve path seats divisor rawPolicy => do
    let policy ← liftExcept (tiePolicy settings rawPolicy)
    let tally ← readTally around path
    return printed (tally.contest seats divisor policy).toJson
  | .defaultConfig => return String.ofList ({} : Settings).lines

/-- Carries out a command line in an environment of variables. -/
def run (environment : Options) (args : List String) : m (Except Failure String) :=
  ExceptT.run do
    let some i := Invocation.ofArguments? environment args | throw .usage
    let settings ← i.settings around
    liftExcept (checkLogging environment settings)
    i.command.run around settings

end

end TrusteeBoard.CommandLine
