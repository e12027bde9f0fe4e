import AccessorGen.TypeHeader

set_option autoImplicit false

/-!
# Type declarations

What is known of a declared type: its header, the types it derives from, the
underlying type if it is an enum, and the conversion operators declared in it.
-/

namespace AccessorGen

/-- How a conversion operator is applied. -/
inductive OperatorKind where
  | «implicit»
  | «explicit»
  deriving DecidableEq, Repr, Inhabited

namespace OperatorKind

/-- All kinds. -/
def all : List OperatorKind := [.implicit, .explicit]

/-- The keyword of the kind. -/
def text : OperatorKind → String
  | .implicit => "implicit"
  | .explicit => "explicit"

/-- The kind of that keyword. -/
def ofText? (text : String) : Option OperatorKind := all.find? (·.text == text)

@[simp] theorem ofText?_text (k : OperatorKind) : ofText? k.text = some k := by
  cases k <;> decide

end OperatorKind

/-- A conversion operator: it takes a value of one type and returns one of
another. -/
structure ConversionOperator where
  kind : OperatorKind
  parameter : TypeRef
  returns : TypeRef
  deriving DecidableEq, Repr, Inhabited

/-- A type declaration. -/
structure TypeDecl where
  header : TypeHeader
  /-- The base types and interfaces, as written. -/
  bases : List TypeRef
  /-- The underlying type of an enum, if it is written. -/
  underlying : Option TypeRef
  operators : List ConversionOperator
  deriving DecidableEq, Repr, Inhabited

namespace TypeDecl

/-- A reference to the declared type. -/
def typeRef (d : TypeDecl) : TypeRef := d.header.typeRef

/-- The type that holds an enum's values, which is `int` unless it is written;
other types have none. -/
def enumUnderlying? (d : TypeDecl) : Option TypeRef :=
  if d.header.kind = .enumType then some (d.underlying.getD (.ofPredefined .int)) else none

/-- The declaration is an enum. -/
def isEnum (d : TypeDecl) : Bool := d.enumUnderlying?.isSome

@[simp] theorem isEnum_eq (d : TypeDecl) : d.isEnum = decide (d.header.kind = .enumType) := by
  simp only [isEnum, enumUnderlying?]
  split <;> simp_all

end TypeDecl

end AccessorGen
