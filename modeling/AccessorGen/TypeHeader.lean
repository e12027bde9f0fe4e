import AccessorGen.TypeRef

set_option autoImplicit false

/-!
# Type headers

What opens a type declaration: its kind, namespace, name and type parameters.
The type a header belongs to is settled by the namespace, the name and the
number of parameters; the kind and the names of the parameters only matter when
the header is written again.
-/

namespace AccessorGen

/-- The kind of a declared type. -/
inductive TypeKind where
  | classType
  | structType
  | interfaceType
  | recordType
  | recordStruct
  | enumType
  deriving DecidableEq, Repr, Inhabited

namespace TypeKind

/-- All kinds. -/
def all : List TypeKind :=
  [classType, structType, interfaceType, recordType, recordStruct, enumType]

/-- The keywords that open a declaration of the kind. -/
def text : TypeKind → String
  | classType => "class"
  | structType => "struct"
  | interfaceType => "interface"
  | recordType => "record"
  | recordStruct => "record struct"
  | enumType => "enum"

/-- The one-word spelling used in documents. -/
def tag : TypeKind → String
  | recordStruct => "record_struct"
  | k => k.text

/-- The kind of that spelling. -/
def ofTag? (tag : String) : Option TypeKind := all.find? (·.tag == tag)

/-- A declaration of the kind can be split over several parts. -/
def canBePartial : TypeKind → Bool
  | enumType => false
  | _ => true

@[simp] theorem ofTag?_tag (k : TypeKind) : ofTag? k.tag = some k := by
  cases k <;> decide

end TypeKind

/-- The identity of a declared type. -/
structure TypeIdentity where
  scope : Option String
  name : String
  arity : Nat
  deriving DecidableEq, Repr, Inhabited

/-- The header of a type declaration. -/
structure TypeHeader where
  /-- The dotted namespace around the declaration, if there is one. -/
  scope : Option String
  name : String
  kind : TypeKind
  /-- The names of the type parameters. -/
  params : List String
  deriving DecidableEq, Repr, Inhabited

namespace TypeHeader

/-- The normal spelling of a namespace: no white space around it, no `global::`
in front of it, no dots at its ends; an empty one is no namespace. -/
def normalScope? (scope : String) : Option String :=
  match Text.trimDots (Text.dropGlobal (Text.trimChars scope.toList)) with
  | [] => none
  | cs => some (String.ofList cs)

/-- The header of a type whose namespace is brought into normal spelling. -/
def ofParts (scope : Option String) (name : String) (kind : TypeKind)
    (params : List String) : TypeHeader :=
  ⟨scope.bind normalScope?, name, kind, params⟩

/-- The number of type parameters. -/
def arity (h : TypeHeader) : Nat := h.params.length

/-- The type that the header belongs to. -/
def identity (h : TypeHeader) : TypeIdentity := ⟨h.scope, h.name, h.arity⟩

/-- The name with its namespace in front. -/
def qualifiedName (h : TypeHeader) : String :=
  match h.scope with
  | some scope => scope ++ "." ++ h.name
  | none => h.name

/-- A name followed by the type parameters. -/
def withParams (name : String) : List String → String
  | [] => name
  | params => name ++ "<" ++ ", ".intercalate params ++ ">"

/-- The qualified name followed by the type parameters. -/
def text (h : TypeHeader) : String := withParams h.qualifiedName h.params

/-- The name as it is declared, followed by the type parameters. -/
def declaredName (h : TypeHeader) : String := withParams h.name h.params

/-- A reference to the type with its own parameters as arguments. -/
def typeRef (h : TypeHeader) : TypeRef :=
  TypeRef.generic h.qualifiedName (h.params.map TypeRef.ofPath)

end TypeHeader

end AccessorGen
