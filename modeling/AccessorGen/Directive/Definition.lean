import AccessorGen.Directive.Arguments
import AccessorGen.SourceUnit

set_option autoImplicit false

/-!
# Directives: the definition unit

The unit that declares the directive's class, with one constructor for each
accepted shape of arguments, and the enum of policies, so that annotated source
compiles.
-/

namespace AccessorGen.Directive

/-- The parameter of a constructor for an argument of some kind. -/
def Shape.parameter (s : Shape) : ArgumentKind → String
  | .type => "Type type"
  | .policy => policyEnum ++ " access"
  | .bool => if s.boolIsSetter then "bool setter" else "bool unused"
  | .otherEnum => "Enum value"

/-- Writes what a constructor does with an argument of some kind. -/
def Shape.writeAssignment (s : Shape) (w : SourceWriter) : ArgumentKind → SourceWriter
  | .type => w.line "Type = type;"
  | .policy => w.line "AXSType = access;"
  | .bool => if s.boolIsSetter then w.line "IncludeSetter = setter;" else w
  | .otherEnum => w

/-- The line that declares the constructor for a shape. -/
def Shape.declaration (className : String) (s : Shape) : String :=
  "public " ++ className ++ "(" ++ ", ".intercalate (s.signature.map s.parameter) ++ ")"

/-- Writes the constructor for a shape. -/
def Shape.writeConstructor (className : String) (w : SourceWriter) (s : Shape) : SourceWriter :=
  s.signature.foldl s.writeAssignment (w.line (s.declaration className)).openBlock
    |>.closeBlock

/-- Writes the class of the directive, with an empty line before each
constructor. -/
def writeClass (className : String) (w : SourceWriter) : SourceWriter :=
  let w := w
    |>.line "[AttributeUsage(AttributeTargets.Field, Inherited = false, AllowMultiple = false)]"
    |>.line ("sealed class " ++ className ++ " : Attribute")
    |>.openBlock
    |>.line "public Type Type \x7b get; set; \x7d"
    |>.line ("public " ++ policyEnum ++ " AXSType \x7b get; set; \x7d")
    |>.line "public bool IncludeSetter \x7b get; set; \x7d"
  shapes.foldl (fun w s => s.writeConstructor className w.blank) w
    |>.closeBlock

/-- The line that declares a member of the enum of policies. -/
def policyLine (p : AccessPolicy) : String := p.name ++ " = 1 << " ++ toString p.bit ++ ","

/-- Writes the enum of policies. -/
def writePolicies (w : SourceWriter) : SourceWriter :=
  let w := w
    |>.line "[Flags]"
    |>.line ("internal enum " ++ policyEnum)
    |>.openBlock
  AccessPolicy.all.foldl (fun w p => w.line (policyLine p)) w
    |>.closeBlock

/-- Writes the definition unit below its mark. -/
def writeDefinition (s : Settings) (w : SourceWriter) : SourceWriter :=
  w |>.line "using System;"
    |>.blank
    |>.line ("namespace " ++ s.directiveScope)
    |>.openBlock
    |> writeClass s.className
    |>.blank
    |> writePolicies
    |>.closeBlock

/-- The unit that declares the directive. -/
def definition (s : Settings) : SourceUnit :=
  ⟨s.className ++ ".cs", (SourceWriter.start s.indent |> s.writeMark |> writeDefinition s).text⟩

end AccessorGen.Directive
