import AccessorGen.Json.Basic
import AccessorGen.Settings
import AccessorGen.Toml.Reader

set_option autoImplicit false

/-!
# Documents: settings

The JSON form of the settings, and the TOML form that configuration files have.
Every member is optional, and a member that is not a setting is refused.
-/

namespace AccessorGen.Settings

/-- The names of the settings, in the order of an array. -/
def memberNames : List String :=
  ["directive_name", "directive_namespace", "emit_directive_definition",
   "auto_generated_header", "indent", "file_suffix"]

/-- The number of spaces for a level has to be below this. -/
def indentLimit : Nat := 0x10000000000000000

/-- The settings as a JSON value. -/
def toJson (s : Settings) : Json :=
  .obj [("directive_name", .str s.directiveName),
    ("directive_namespace", .str s.directiveScope),
    ("emit_directive_definition", .bool s.emitsDefinition),
    ("auto_generated_header", .bool s.marksGenerated),
    ("indent", .int s.indent),
    ("file_suffix", .str s.fileSuffix)]

/-- Every member of an object is a setting. -/
def hasOnlySettings : Json → Bool
  | .obj members => members.all fun m => memberNames.contains m.1
  | _ => true

/-- The settings made of their members. -/
def ofMembers? : List (Option Json) → Option Settings
  | [name, scope, definition, generated, indent, suffix] => do
    let name ← Json.orDefault Json.text? standard.directiveName name
    let scope ← Json.orDefault Json.text? standard.directiveScope scope
    let definition ← Json.orDefault Json.bool? standard.emitsDefinition definition
    let generated ← Json.orDefault Json.bool? standard.marksGenerated generated
    let indent ← Json.orDefault (Json.natBelow? indentLimit) standard.indent indent
    let suffix ← Json.orDefault Json.text? standard.fileSuffix suffix
    some ⟨name, scope, definition, generated, indent, suffix⟩
  | _ => none

/-- The settings that a JSON value writes. -/
def ofJson? (j : Json) : Option Settings :=
  if hasOnlySettings j then (j.record? memberNames).bind ofMembers? else none

/-- The settings that a configuration file writes. -/
def ofToml? (text : String) : Option Settings :=
  (Toml.parse? text).bind fun entries => ofJson? (.obj entries)

end AccessorGen.Settings
