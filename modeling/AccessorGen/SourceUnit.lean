import AccessorGen.Accessor
import AccessorGen.Settings

set_option autoImplicit false

/-!
# Source units

A unit of generated text with the name of the file it is meant for.  The unit of
a group adds its accessors to the type by one more part of the type's
declaration.  Texts are written line by line; each brace changes the depth at
which the next line stands, and nothing but the order of the calls makes the
braces match.
-/

namespace AccessorGen

/-- A generated file. -/
structure SourceUnit where
  hintName : String
  text : String
  deriving DecidableEq, Repr, Inhabited

/-! ## Writing line by line -/

/-- A text that is written line by line, with the indentation of one level and
the number of blocks that are open. -/
structure SourceWriter where
  text : String
  unit : String
  depth : Nat
  deriving DecidableEq, Repr, Inhabited

namespace SourceWriter

/-- Nothing is written yet; a level is so many spaces. -/
def start (indent : Nat) : SourceWriter := ⟨"", String.ofList (List.replicate indent ' '), 0⟩

/-- Writes a line at the present depth. -/
def line (w : SourceWriter) (content : String) : SourceWriter :=
  { w with text := w.text ++ String.join (List.replicate w.depth w.unit) ++ content ++ "\n" }

/-- Writes an empty line, which is not indented. -/
def blank (w : SourceWriter) : SourceWriter := { w with text := w.text ++ "\n" }

/-- Opens a block.  What follows is one level deeper than the brace. -/
def openBlock (w : SourceWriter) : SourceWriter := { w.line "\x7b" with depth := w.depth + 1 }

/-- Closes a block.  The brace stands where the one that opened the block does, if
there was one. -/
def closeBlock (w : SourceWriter) : SourceWriter := { w with depth := w.depth - 1 }.line "\x7d"

end SourceWriter

/-- Writes the line that marks a unit as generated, if it is asked for. -/
def Settings.writeMark (s : Settings) (w : SourceWriter) : SourceWriter :=
  if s.marksGenerated then w.line "// <auto-generated />" else w

/-! ## Accessors -/

/-- The expression for a value that passes through. -/
def Passage.apply (value : String) : Passage → String
  | direct => value
  | cast type => "(" ++ type.text ++ ")" ++ value

namespace Accessor

/-- Writes the getter. -/
def writeGetter (a : Accessor) (w : SourceWriter) : SourceWriter :=
  w |>.line "get"
    |>.openBlock
    |>.line ("return " ++ a.getter.apply ("this." ++ a.field) ++ ";")
    |>.closeBlock

/-- Writes the setter, if there is one. -/
def writeSetter (a : Accessor) (w : SourceWriter) : SourceWriter :=
  match a.setter with
  | none => w
  | some s =>
    w |>.line (if s.isPrivate then "private set" else "set")
      |>.openBlock
      |>.line ("this." ++ a.field ++ " = " ++ s.passage.apply "value" ++ ";")
      |>.closeBlock

/-- Writes the declaration of the accessor. -/
def write (a : Accessor) (w : SourceWriter) : SourceWriter :=
  w |>.line (a.policy.visibility.text ++ " " ++ a.type.text ++ " " ++ a.name)
    |>.openBlock
    |> a.writeGetter
    |> a.writeSetter
    |>.closeBlock

end Accessor

/-! ## Units -/

namespace AccessorGroup

/-- Writes the accessors with an empty line before each but the first. -/
def writeAccessors (g : AccessorGroup) (w : SourceWriter) : SourceWriter :=
  g.accessors.zipIdx.foldl (fun w (a, i) => a.write (if 0 < i then w.blank else w)) w

/-- Writes the part of the type's declaration that holds the accessors. -/
def writeDeclaration (g : AccessorGroup) (w : SourceWriter) : SourceWriter :=
  w |>.line ("partial " ++ g.header.kind.text ++ " " ++ g.header.declaredName)
    |>.openBlock
    |> g.writeAccessors
    |>.closeBlock

/-- Opens the type's namespace, if it has one. -/
def openScope (g : AccessorGroup) (w : SourceWriter) : SourceWriter :=
  match g.header.scope with
  | some scope => (w.line ("namespace " ++ scope)).openBlock
  | none => w

/-- Closes the type's namespace, if it has one. -/
def closeScope (g : AccessorGroup) (w : SourceWriter) : SourceWriter :=
  if g.header.scope.isSome then w.closeBlock else w

/-- The text of the group's unit. -/
def text (s : Settings) (g : AccessorGroup) : String :=
  (SourceWriter.start s.indent
    |> s.writeMark
    |> g.openScope
    |> g.writeDeclaration
    |> g.closeScope).text

end AccessorGroup

namespace TypeHeader

/-- The number of type parameters as it is written in a unit's name. -/
def arityMark (h : TypeHeader) : String :=
  if h.arity = 0 then "" else "_" ++ toString h.arity

/-- The name of the unit for a type. -/
def hintName (s : Settings) (h : TypeHeader) : String :=
  h.qualifiedName ++ h.arityMark ++ s.fileSuffix

end TypeHeader

/-- The unit of a group, with the header of the type it belongs to. -/
structure AccessorUnit where
  header : TypeHeader
  unit : SourceUnit
  deriving DecidableEq, Repr, Inhabited

/-- The unit of a group. -/
def AccessorGroup.unit (s : Settings) (g : AccessorGroup) : AccessorUnit :=
  ⟨g.header, g.header.hintName s, g.text s⟩

end AccessorGen
