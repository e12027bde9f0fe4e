import AccessorGen.TypeHeader

set_option autoImplicit false

/-!
# Fields

A field of a declared type with the attributes written on it.  The arguments of
an attribute are literals: a type, a truth value, or a member of an enum given
by its name or by its value.
-/

namespace AccessorGen

/-- A place in a source file. -/
structure Location where
  path : String
  line : UInt32
  column : UInt32
  deriving DecidableEq, Repr, Inhabited

/-- The place as compilers write it. -/
def Location.text (l : Location) : String :=
  l.path ++ ":" ++ toString l.line.toNat ++ ":" ++ toString l.column.toNat

/-- A member of an enum, by its name or by its value. -/
inductive EnumMember where
  | byName (name : String)
  | byValue (value : Int64)
  deriving DecidableEq, Repr, Inhabited

/-- The member as written. -/
def EnumMember.text : EnumMember → String
  | .byName name => name
  | .byValue value => toString value.toInt

/-- A member of an enum, with the enum's name as written. -/
structure EnumLiteral where
  enumName : String
  member : EnumMember
  deriving DecidableEq, Repr, Inhabited

/-- The enum's name without the namespace in front of it. -/
def EnumLiteral.simpleName (l : EnumLiteral) : String :=
  String.ofList (Text.lastSegment (Text.dropGlobal l.enumName.toList))

/-- An argument of an attribute. -/
inductive Literal where
  | type (type : TypeRef)
  | enum (literal : EnumLiteral)
  | bool (value : Bool)
  deriving DecidableEq, Repr, Inhabited

/-- An attribute on a field. -/
structure Attribute where
  name : String
  args : List Literal
  deriving DecidableEq, Repr, Inhabited

/-- The attribute's name without the namespace in front of it. -/
def Attribute.simpleName (a : Attribute) : String :=
  String.ofList (Text.lastSegment (Text.dropGlobal (Text.trimChars a.name.toList)))

/-- A field. -/
structure Field where
  ident : String
  type : TypeRef
  /-- The header of the type that the field is declared in. -/
  container : TypeHeader
  attributes : List Attribute
  location : Option Location
  deriving DecidableEq, Repr, Inhabited

/-- The field's name behind the name of its type. -/
def Field.route (f : Field) : String := f.container.qualifiedName ++ "." ++ f.ident

end AccessorGen
