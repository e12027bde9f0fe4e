import AccessorGen.Accessor
import AccessorGen.Diagnostic

set_option autoImplicit false

/-!
# Events

What happens during a run, for the log.  An event has a level, comes from one
component of the program, and carries a message with named details.
-/

namespace AccessorGen

/-- How much an event matters. -/
inductive Level where
  | debug
  | info
  | warn
  deriving DecidableEq, Repr, Inhabited

/-- The name of the level. -/
def Level.text : Level → String
  | debug => "DEBUG"
  | info => "INFO"
  | warn => "WARN"

/-- The part of the program that an event comes from. -/
inductive Component where
  | generation
  | configuration
  | command
  | output
  deriving DecidableEq, Repr, Inhabited

/-- An event. -/
inductive Event where
  /-- A field gets no accessor. -/
  | fieldSkipped (reason : Diagnostic)
  /-- A field gets an accessor. -/
  | fieldResolved (route : String) (accessor : Accessor) (shape : String)
  /-- The unit of a group is written. -/
  | groupEmitted (group : AccessorGroup)
  /-- All units are there. -/
  | generationComplete (fields accessors units diagnostics : Nat)
  /-- There is no configuration file. -/
  | configurationAbsent (file : String)
  /-- A configuration file has been read. -/
  | configurationLoaded (path : String)
  /-- A snapshot has been read. -/
  | snapshotLoaded (path : String) (types fields : Nat)
  /-- The units have been written to a directory. -/
  | unitsWritten (directory : String) (units : Nat)
  /-- A diagnostic could not be written. -/
  | diagnosticLost (error : String) (diagnostic : Diagnostic)
  deriving DecidableEq, Repr, Inhabited

namespace Event

/-- How much the event matters. -/
def level : Event → Level
  | fieldSkipped _ | diagnosticLost _ _ => .warn
  | fieldResolved _ _ _ | groupEmitted _ | configurationAbsent _ | configurationLoaded _ =>
    .debug
  | generationComplete _ _ _ _ | snapshotLoaded _ _ _ | unitsWritten _ _ => .info

/-- The part of the program that the event comes from. -/
def component : Event → Component
  | fieldSkipped _ | fieldResolved _ _ _ | groupEmitted _ | generationComplete _ _ _ _ =>
    .generation
  | configurationAbsent _ | configurationLoaded _ => .configuration
  | snapshotLoaded _ _ _ | unitsWritten _ _ => .command
  | diagnosticLost _ _ => .output

/-- What happened. -/
def message : Event → String
  | fieldSkipped _ => "field skipped"
  | fieldResolved _ _ _ => "field resolved"
  | groupEmitted _ => "emitting group"
  | generationComplete _ _ _ _ => "accessor generation complete"
  | configurationAbsent file => "no " ++ file ++ " found, using defaults"
  | configurationLoaded _ => "config loaded"
  | snapshotLoaded _ _ _ => "snapshot loaded"
  | unitsWritten _ _ => "units written"
  | diagnosticLost _ _ => "diagnostic write failed"

/-- The details, by name. -/
def details : Event → List (String × String)
  | fieldSkipped d => [("field", d.field), ("code", d.code.text), ("reason", d.message)]
  | fieldResolved route a shape =>
    [("field", route), ("accessor", a.name), ("target", a.type.text), ("policy", a.policy.name),
     ("shape", shape), ("cast", if a.getter = .direct then "false" else "true")]
  | groupEmitted g => [("ty", g.header.text), ("members", toString g.accessors.length)]
  | generationComplete fields accessors units diagnostics =>
    [("fields", toString fields), ("members", toString accessors), ("units", toString units),
     ("diagnostics", toString diagnostics)]
  | configurationAbsent _ => []
  | configurationLoaded path => [("path", path)]
  | snapshotLoaded path types fields =>
    [("path", path), ("types", toString types), ("fields", toString fields)]
  | unitsWritten directory units => [("dir", directory), ("units", toString units)]
  | diagnosticLost error d => [("error", error), ("code", d.code.text)]

end Event

end AccessorGen
