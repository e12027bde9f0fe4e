import AccessorGen.CommandLine.Options
import AccessorGen.Disk
import AccessorGen.Document.Settings
import AccessorGen.Generation
import AccessorGen.Validation

set_option autoImplicit false

/-!
# Runs

Carrying out a command: read the configuration and the snapshot, generate,
report the diagnostics, and write the units if that is asked for.  The
surroundings are given as a `Host`, so that one program runs on a real file
system and on a disk in memory.
-/

namespace AccessorGen

/-- What a run needs from its surroundings. -/
structure Host (m : Type → Type) where
  readText : String → m (Except AccessFault String)
  isFile : String → m Bool
  makeDirectories : String → m (Except AccessFault Unit)
  writeText : String → String → m (Except AccessFault Unit)
  /-- Writes to the standard output. -/
  print : String → m Unit
  /-- Writes to the standard error output. -/
  printError : String → m Unit
  log : Event → m Unit

/-- Why a run comes to nothing. -/
inductive RunError where
  | unreadable (path : String) (fault : AccessFault)
  | unwritable (path : String) (fault : AccessFault)
  /-- The configuration file writes no settings. -/
  | badConfiguration (path : String)
  /-- The snapshot file writes no snapshot. -/
  | badSnapshot (path : String)
  | invalidSnapshot (path : String) (issues : IssueTree)

namespace RunError

/-- What could not be done. -/
def context : RunError → String
  | unreadable path _ => "cannot read " ++ path ++ ": "
  | unwritable path _ => "cannot write " ++ path ++ ": "
  | badConfiguration path => "invalid config " ++ path ++ ": "
  | badSnapshot path => path ++ ": snapshot decode failed: "
  | invalidSnapshot path issues => path ++ ": " ++ Snapshot.invalidMessage issues

/-- Why it could not be done, unless that is said already. -/
def cause : RunError → String
  | unreadable _ fault | unwritable _ fault => fault.text
  | badConfiguration _ => "not a valid set of settings"
  | badSnapshot _ => "not a valid snapshot document"
  | invalidSnapshot _ _ => ""

end RunError

/-- What came of a run. -/
structure Summary where
  hasErrors : Bool
  diagnostics : Nat
  /-- The paths of the files that were written. -/
  written : List String
  deriving DecidableEq, Repr, Inhabited

namespace Run

variable {m : Type → Type} [Monad m]

/-- The configuration file that is looked for when none is named. -/
def configurationFile : String := "autoprop.toml"

/-- An access that the run cannot go on without. -/
def demand {α : Type} (error : AccessFault → RunError) (access : m (Except AccessFault α)) :
    ExceptT RunError m α := do
  match ← access with
  | .ok value => return value
  | .error fault => throw (error fault)

/-- The settings in a configuration file. -/
def readSettings (host : Host m) (path : String) : ExceptT RunError m Settings := do
  let text ← demand (.unreadable path) (host.readText path)
  match Settings.ofToml? text with
  | none => throw (.badConfiguration path)
  | some settings =>
    host.log (.configurationLoaded path)
    return settings

/-- The settings of a run: those of the named file, or else of the usual file in
a directory, or else the standard ones. -/
def loadSettings (host : Host m) (named : Option String) (directory : String) :
    ExceptT RunError m Settings := do
  match named with
  | some path => readSettings host path
  | none =>
    let path := joinPath directory configurationFile
    if ← host.isFile path then readSettings host path
    else
      host.log (.configurationAbsent configurationFile)
      return Settings.standard

/-- The valid snapshot in a file. -/
def loadSnapshot (host : Host m) (path : String) : ExceptT RunError m Snapshot := do
  let text ← demand (.unreadable path) (host.readText path)
  match Snapshot.parse? text with
  | none => throw (.badSnapshot path)
  | some snapshot =>
    match snapshot.validate with
    | .error issues => throw (.invalidSnapshot path issues)
    | .ok () =>
      host.log (.snapshotLoaded path snapshot.types.length snapshot.fields.length)
      return snapshot

/-- Reports the diagnostics: as lines for people, or as one document for
programs. -/
def report (host : Host m) (format : CommandLine.Format) (diagnostics : List Diagnostic) :
    m Unit :=
  match format with
  | .text => diagnostics.forM fun d => host.printError (d.text ++ "\n")
  | .json => host.print (Diagnostic.document diagnostics ++ "\n")

/-- Writes units into a directory one after the other; gives their paths. -/
def writeAll (host : Host m) (directory : String) :
    List SourceUnit → ExceptT RunError m (List String)
  | [] => return []
  | unit :: rest => do
    let path := joinPath directory unit.hintName
    demand (.unwritable path) (host.writeText path unit.text)
    let paths ← writeAll host directory rest
    return path :: paths

/-- Writes units into a directory, which is created if need be. -/
def writeUnits (host : Host m) (directory : String) (units : List SourceUnit) :
    ExceptT RunError m (List String) := do
  demand (.unwritable directory) (host.makeDirectories directory)
  let paths ← writeAll host directory units
  host.log (.unitsWritten directory paths.length)
  return paths

/-- Generates for the snapshot in a file, and writes the units if a directory is
given. -/
def execute (host : Host m) (settings : Settings) (path : String) (out : Option String)
    (format : CommandLine.Format) : ExceptT RunError m Summary := do
  let snapshot ← loadSnapshot host path
  let generation := settings.generate snapshot
  ExceptT.lift ((settings.generationEvents snapshot).forM host.log)
  ExceptT.lift (report host format generation.diagnostics)
  let written ← match out with
    | some directory => writeUnits host directory generation.units
    | none => pure []
  return ⟨generation.hasErrors, generation.diagnostics.length, written⟩

/-- Carries out a command line. -/
def run (host : Host m) (invocation : CommandLine.Invocation) : ExceptT RunError m Summary := do
  let settings ← loadSettings host invocation.config "."
  match invocation.command with
  | .generate snapshot out => execute host settings snapshot (some out) invocation.format
  | .check snapshot => execute host settings snapshot none invocation.format

end Run

/-! ## Runs in memory -/

/-- A disk in memory and what a run has said so far. -/
structure Rehearsal where
  disk : Disk
  output : String
  errorOutput : String
  events : List Event
  deriving Repr, Inhabited

namespace Rehearsal

/-- Nothing has happened yet. -/
def start (disk : Disk) : Rehearsal := ⟨disk, "", "", []⟩

/-- A change of the disk that may fail, with what it leaves behind. -/
def change (f : Disk → Except AccessFault Unit × Disk) :
    StateM Rehearsal (Except AccessFault Unit) := do
  let r ← get
  let (result, disk) := f r.disk
  set { r with disk := disk }
  return result

/-- A change that leaves the disk alone when it fails. -/
def orUnchanged (f : Disk → Except AccessFault Disk) (disk : Disk) :
    Except AccessFault Unit × Disk :=
  match f disk with
  | .ok changed => (.ok (), changed)
  | .error fault => (.error fault, disk)

/-- The surroundings that a disk in memory provides. -/
def host : Host (StateM Rehearsal) where
  readText path := do return (← get).disk.readText path
  isFile path := do return (← get).disk.isFile path
  makeDirectories path := change (·.makeDirectories path)
  writeText path content := change (orUnchanged (·.writeText path content))
  print text := modify fun r => { r with output := r.output ++ text }
  printError text := modify fun r => { r with errorOutput := r.errorOutput ++ text }
  log event := modify fun r => { r with events := r.events ++ [event] }

end Rehearsal

end AccessorGen
