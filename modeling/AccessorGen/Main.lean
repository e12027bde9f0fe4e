import AccessorGen.CommandLine.Parser
import AccessorGen.Run

set_option autoImplicit false

/-!
# The program

The command line on a real file system.  Diagnostics and the log go where the
run sends them; the exit code is 0 for a clean run, 1 if some field got no
accessor and 2 if the run came to nothing.
-/

namespace AccessorGen.Program

/-- The environment variable that names the configuration file. -/
def configurationVariable : String := "AUTOPROP_CONFIG"

/-- How the program is used. -/
def usage : String :=
  "Generate accessor properties for annotated fields\n\n" ++
  "Usage: autoprop [-c <CONFIG>] [--format <text|json>] [-v] <COMMAND>\n\n" ++
  "Commands:\n" ++
  "  generate -s <SNAPSHOT> -o <OUT>  write every unit to the output directory\n" ++
  "  check -s <SNAPSHOT>              report diagnostics without writing\n"

/-- The fault behind an error of the system. -/
def faultOf : IO.Error → AccessFault
  | .noFileOrDirectory .. => .notFound
  | .alreadyExists .. => .alreadyExists
  | e => .other (toString e)

/-- An action on the file system whose failure is a fault. -/
def attempt {α : Type} (action : IO α) : IO (Except AccessFault α) := do
  try
    return .ok (← action)
  catch e =>
    return .error (faultOf e)

/-- The text of a file. -/
def readText (path : String) : IO (Except AccessFault String) := do
  match ← attempt (IO.FS.readBinFile path) with
  | .error fault => return .error fault
  | .ok bytes =>
    match String.fromUTF8? bytes with
    | some text => return .ok text
    | none => return .error .notText

/-- The path leads to a file that can be read. -/
def isFile (path : String) : IO Bool := do
  match ← attempt (IO.FS.readBinFile path) with
  | .ok _ => return true
  | .error _ => return false

/-- An event on one line. -/
def eventText (e : Event) : String :=
  e.level.text ++ " " ++ e.message ++
    String.join (e.details.map fun (name, value) => " " ++ name ++ "=" ++ value)

/-- The log shows details only if they are asked for. -/
def isShown (verbose : Bool) (e : Event) : Bool := verbose || e.level != .debug

/-- The surroundings that the system provides. -/
def host (verbose : Bool) : Host IO where
  readText := readText
  isFile := isFile
  makeDirectories path := attempt (IO.FS.createDirAll path)
  writeText path content := attempt (IO.FS.writeFile path content)
  print text := IO.print text
  printError text := IO.eprint text
  log e := if isShown verbose e then IO.eprintln (eventText e) else pure ()

/-- The exit code for a command line that is not carried out. -/
def refuse (e : CommandLine.UsageError) : IO UInt32 := do
  match e with
  | .helpRequested =>
    IO.print usage
    return 0
  | .versionRequested =>
    IO.println "autoprop 0.4.0"
    return 0
  | _ =>
    IO.eprintln ("error: " ++ e.text ++ "\n\n" ++ usage)
    return 2

/-- Carries out a command line; gives the exit code. -/
def perform (invocation : CommandLine.Invocation) : IO UInt32 := do
  match ← (Run.run (host invocation.verbose) invocation).run with
  | .ok summary => return if summary.hasErrors then 1 else 0
  | .error e =>
    IO.eprintln ("autoprop: " ++ e.context ++ e.cause)
    return 2

end AccessorGen.Program

/-- Reads the command line and carries it out. -/
def main (arguments : List String) : IO UInt32 := do
  let environment ← IO.getEnv AccessorGen.Program.configurationVariable
  match AccessorGen.CommandLine.parse environment arguments with
  | .ok invocation => AccessorGen.Program.perform invocation
  | .error e => AccessorGen.Program.refuse e
