import AccessorGen.Conversion
import AccessorGen.Directive.Arguments
import AccessorGen.Document.Snapshot

set_option autoImplicit false

/-!
# Diagnostics

What the generator has to say about a field: an error if there will be no
accessor, a warning if the accessor has another name than expected.  Each code
has a fixed severity and title.
-/

namespace AccessorGen

/-- What a diagnostic is about. -/
inductive DiagnosticCode where
  | typeConversion
  | configuration
  | nameDerivation
  deriving DecidableEq, Repr, Inhabited

/-- How bad it is. -/
inductive Severity where
  | warning
  | error
  deriving DecidableEq, Repr, Inhabited

/-- The word for the severity. -/
def Severity.text : Severity → String
  | warning => "warning"
  | error => "error"

namespace DiagnosticCode

/-- The code as it is written. -/
def text : DiagnosticCode → String
  | typeConversion => "APG001"
  | configuration => "APG002"
  | nameDerivation => "APG003"

/-- Only an accessor that is made all the same comes with a warning. -/
def severity : DiagnosticCode → Severity
  | typeConversion | configuration => .error
  | nameDerivation => .warning

/-- A short description. -/
def title : DiagnosticCode → String
  | typeConversion => "Type conversion error"
  | configuration => "Invalid directive arguments"
  | nameDerivation => "Accessor name fallback"

end DiagnosticCode

/-- A message about a field. -/
structure Diagnostic where
  code : DiagnosticCode
  message : String
  /-- The name of the field. -/
  field : String
  location : Option Location
  deriving DecidableEq, Repr, Inhabited

namespace Diagnostic

/-- The category of all diagnostics. -/
def category : String := "AutoPropertyGenerator"

/-- Neither of two types can be converted into the other. -/
def ofNoConversion (e : NoConversion) (field : String) (location : Option Location) :
    Diagnostic :=
  ⟨.typeConversion, e.message, field, location⟩

/-- The directive on a field cannot be followed for some reason. -/
def ofReason (directive reason field : String) (location : Option Location) : Diagnostic :=
  ⟨.configuration,
    "Invalid " ++ directive ++ " arguments on field '" ++ field ++ "': " ++ reason,
    field, location⟩

/-- The field gives no name, and another one is used. -/
def ofFallback (fallback field : String) (location : Option Location) : Diagnostic :=
  ⟨.nameDerivation,
    "Field '" ++ field ++ "' has no lowercase letter to promote; using '" ++ fallback ++ "'",
    field, location⟩

/-- How bad it is. -/
def severity (d : Diagnostic) : Severity := d.code.severity

/-- There will be no accessor. -/
def isError (d : Diagnostic) : Bool := d.severity == .error

/-- The diagnostic on one line, as compilers write it. -/
def text (d : Diagnostic) : String :=
  let place := match d.location with
    | some location => location.text ++ ": "
    | none => ""
  place ++ d.severity.text ++ " " ++ d.code.text ++ ": " ++ d.message

/-- The diagnostic as a JSON value. -/
def toJson (d : Diagnostic) : Json :=
  .obj ([("code", .str d.code.text), ("severity", .str d.severity.text),
      ("category", .str category), ("title", .str d.code.title), ("message", .str d.message),
      ("field", .str d.field)] ++
    Json.memberIfSome "location" Location.toJson d.location)

/-- The diagnostics, one a line. -/
def lines (ds : List Diagnostic) : String := String.join (ds.map (·.text ++ "\n"))

/-- The diagnostics as a JSON text. -/
def document (ds : List Diagnostic) : String := (Json.ofList toJson ds).pretty

end Diagnostic

end AccessorGen
