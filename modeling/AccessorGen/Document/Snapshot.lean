import AccessorGen.Document.TypeRef
import AccessorGen.Json.Printer
import AccessorGen.Json.Reader
import AccessorGen.Universe

set_option autoImplicit false

/-!
# Documents: snapshots

The JSON form of a snapshot and of everything in it.  Members that are empty are
left out when written and may be absent when read; unknown members are passed
over.  A record may also be given as the array of its members, except for a type
declaration, which shares one object with its header.
-/

namespace AccessorGen

namespace TypeHeader

/-- The members of a header. -/
def members (h : TypeHeader) : List (String × Json) :=
  Json.memberIfSome "namespace" .str h.scope ++
    [("name", .str h.name), ("kind", .str h.kind.tag)] ++
    Json.memberUnlessEmpty "type_params" .str h.params

/-- The header as a JSON value. -/
def toJson (h : TypeHeader) : Json := .obj h.members

/-- The names of a header's members, in the order of an array. -/
def memberNames : List String := ["namespace", "name", "kind", "type_params"]

/-- The kind that a JSON value writes. -/
def kind? (j : Json) : Option TypeKind := j.word?.bind TypeKind.ofTag?

/-- The kind as it may be written in a declaration, where an empty object is
nothing too. -/
def declaredKind? : Json → Option TypeKind
  | .obj [(word, .obj [])] => TypeKind.ofTag? word
  | j => kind? j

/-- The header made of its members, given how to read its kind. -/
def ofMembers? (kind? : Json → Option TypeKind) : List (Option Json) → Option TypeHeader
  | [scope, some name, kind, params] => do
    let scope ← Json.orDefault (Json.option? Json.text?) none scope
    let name ← name.text?
    let kind ← Json.orDefault kind? .classType kind
    let params ← Json.orDefault (Json.list? Json.text?) [] params
    some (ofParts scope name kind params)
  | _ => none

/-- The header that a JSON value writes. -/
def ofJson? (j : Json) : Option TypeHeader := (j.record? memberNames).bind (ofMembers? kind?)

end TypeHeader

namespace ConversionOperator

/-- The operator as a JSON value. -/
def toJson (op : ConversionOperator) : Json :=
  .obj [("kind", .str op.kind.text), ("parameter", op.parameter.toJson),
    ("returns", op.returns.toJson)]

/-- The operator that a JSON value writes. -/
def ofJson? (j : Json) : Option ConversionOperator :=
  match j.record? ["kind", "parameter", "returns"] with
  | some [some kind, some parameter, some returns] => do
    let kind ← kind.word?.bind OperatorKind.ofText?
    let parameter ← TypeRef.ofJson? parameter
    let returns ← TypeRef.ofJson? returns
    some ⟨kind, parameter, returns⟩
  | _ => none

end ConversionOperator

namespace TypeDecl

/-- The declaration as a JSON value, the members of its header first. -/
def toJson (d : TypeDecl) : Json :=
  .obj (d.header.members ++
    Json.memberUnlessEmpty "base_types" TypeRef.toJson d.bases ++
    Json.memberIfSome "underlying" TypeRef.toJson d.underlying ++
    Json.memberUnlessEmpty "operators" ConversionOperator.toJson d.operators)

/-- The names of the members that a declaration has beside its header's. -/
def memberNames : List String := ["base_types", "underlying", "operators"]

/-- The declaration that a JSON value writes.  All members but the declaration's
own have to be usable, because the header is looked for among them. -/
def ofJson? : Json → Option TypeDecl
  | .obj members => do
    let others := members.filter fun m => !memberNames.contains m.1
    guard (Json.membersUsable others)
    let header ← (Json.obj members).record? TypeHeader.memberNames
    let header ← TypeHeader.ofMembers? TypeHeader.declaredKind? header
    match (Json.obj members).record? memberNames with
    | some [bases, underlying, operators] => do
      let bases ← Json.orDefault (Json.list? TypeRef.ofJson?) [] bases
      let underlying ← Json.orDefault (Json.option? TypeRef.ofJson?) none underlying
      let operators ← Json.orDefault (Json.list? ConversionOperator.ofJson?) [] operators
      some ⟨header, bases, underlying, operators⟩
    | _ => none
  | _ => none

end TypeDecl

namespace Location

/-- The place as a JSON value. -/
def toJson (l : Location) : Json :=
  .obj [("path", .str l.path), ("line", .int l.line.toNat), ("column", .int l.column.toNat)]

/-- A line or column as a JSON value. -/
def number? (j : Json) : Option UInt32 := (j.natBelow? 0x100000000).map UInt32.ofNat

/-- The place that a JSON value writes. -/
def ofJson? (j : Json) : Option Location :=
  match j.record? ["path", "line", "column"] with
  | some [some path, some line, some column] => do
    let path ← path.text?
    let line ← number? line
    let column ← number? column
    some ⟨path, line, column⟩
  | _ => none

end Location

namespace EnumMember

/-- The member as a JSON value. -/
def toJson : EnumMember → Json
  | byName name => .str name
  | byValue value => .int value.toInt

/-- The member that a JSON value writes. -/
def ofJson? : Json → Option EnumMember
  | .str name => some (byName name)
  | .int n =>
    if Int64.minValue.toInt ≤ n ∧ n ≤ Int64.maxValue.toInt then some (byValue (Int64.ofInt n))
    else none
  | _ => none

end EnumMember

namespace EnumLiteral

/-- The literal as a JSON value. -/
def toJson (l : EnumLiteral) : Json :=
  .obj [("type", .str l.enumName), ("member", l.member.toJson)]

/-- The literal that a JSON value writes. -/
def ofJson? (j : Json) : Option EnumLiteral :=
  match j.record? ["type", "member"] with
  | some [some enumName, some member] => do
    let enumName ← enumName.text?
    let member ← EnumMember.ofJson? member
    some ⟨enumName, member⟩
  | _ => none

end EnumLiteral

namespace Literal

/-- The literal as a JSON value. -/
def toJson : Literal → Json
  | type t => .obj [("type", t.toJson)]
  | enum l => .obj [("enum", l.toJson)]
  | bool b => .obj [("bool", .bool b)]

/-- The literal that a JSON value writes. -/
def ofJson? (j : Json) : Option Literal :=
  match j.tagged? with
  | some ("type", content) => (TypeRef.ofJson? content).map type
  | some ("enum", content) => (EnumLiteral.ofJson? content).map enum
  | some ("bool", content) => content.bool?.map bool
  | _ => none

end Literal

namespace Attribute

/-- The attribute as a JSON value. -/
def toJson (a : Attribute) : Json :=
  .obj (("name", .str a.name) :: Json.memberUnlessEmpty "args" Literal.toJson a.args)

/-- The attribute that a JSON value writes. -/
def ofJson? (j : Json) : Option Attribute :=
  match j.record? ["name", "args"] with
  | some [some name, args] => do
    let name ← name.text?
    let args ← Json.orDefault (Json.list? Literal.ofJson?) [] args
    some ⟨name, args⟩
  | _ => none

end Attribute

namespace Field

/-- The field as a JSON value. -/
def toJson (f : Field) : Json :=
  .obj ([("ident", .str f.ident), ("type", f.type.toJson), ("containing", f.container.toJson)] ++
    Json.memberUnlessEmpty "attributes" Attribute.toJson f.attributes ++
    Json.memberIfSome "location" Location.toJson f.location)

/-- The field that a JSON value writes. -/
def ofJson? (j : Json) : Option Field :=
  match j.record? ["ident", "type", "containing", "attributes", "location"] with
  | some [some ident, some type, some container, attributes, location] => do
    let ident ← ident.text?
    let type ← TypeRef.ofJson? type
    let container ← TypeHeader.ofJson? container
    let attributes ← Json.orDefault (Json.list? Attribute.ofJson?) [] attributes
    let location ← Json.orDefault (Json.option? Location.ofJson?) none location
    some ⟨ident, type, container, attributes, location⟩
  | _ => none

end Field

namespace Snapshot

/-- The snapshot as a JSON value. -/
def toJson (s : Snapshot) : Json :=
  .obj [("types", .ofList TypeDecl.toJson s.types), ("fields", .ofList Field.toJson s.fields)]

/-- The snapshot that a JSON value writes. -/
def ofJson? (j : Json) : Option Snapshot :=
  match j.record? ["types", "fields"] with
  | some [types, fields] => do
    let types ← Json.orDefault (Json.list? TypeDecl.ofJson?) [] types
    let fields ← Json.orDefault (Json.list? Field.ofJson?) [] fields
    some ⟨types, fields⟩
  | _ => none

/-- The snapshot as a JSON text. -/
def pretty (s : Snapshot) : String := s.toJson.pretty

/-- The snapshot that a JSON text writes. -/
def parse? (text : String) : Option Snapshot := (Json.parse? text).bind ofJson?

end Snapshot

end AccessorGen
