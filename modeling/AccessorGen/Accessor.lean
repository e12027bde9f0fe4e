import AccessorGen.AccessPolicy
import AccessorGen.Conversion
import AccessorGen.Field

set_option autoImplicit false

/-!
# Accessors

An accessor for a field: a getter, perhaps a setter, and casts in both if the
accessor has another type than the field.  Accessors are grouped by the type
that the fields belong to; groups stand in the order in which their first
members were met.  The group of a type is found by going through the groups, or
by its position in a table beside them.
-/

namespace AccessorGen

/-- How a value passes between an accessor and its field. -/
inductive Passage where
  | direct
  /-- The value is cast to the type. -/
  | cast (type : TypeRef)
  deriving DecidableEq, Repr, Inhabited

/-- The setter of an accessor. -/
structure Setter where
  isPrivate : Bool
  passage : Passage
  deriving DecidableEq, Repr, Inhabited

/-- An accessor. -/
structure Accessor where
  name : String
  /-- The name of the field. -/
  field : String
  type : TypeRef
  fieldType : TypeRef
  policy : AccessPolicy
  getter : Passage
  setter : Option Setter
  deriving DecidableEq, Repr, Inhabited

namespace Accessor

/-- The setter that a policy asks for. -/
def setterFor (policy : AccessPolicy) (passage : Passage) : Option Setter :=
  match policy.mutability with
  | .getOnly => none
  | .getSet => some ⟨false, passage⟩
  | .getPrivateSet => some ⟨true, passage⟩

/-- The accessor of a field: if the types differ, the getter casts to the
accessor's type and the setter to the field's. -/
def ofField (name : String) (f : Field) (target : TypeRef) (policy : AccessPolicy)
    (conversion : Conversion) : Accessor where
  name := name
  field := f.ident
  type := target
  fieldType := f.type
  policy := policy
  getter := if conversion.needsCast then .cast target else .direct
  setter := setterFor policy (if conversion.needsCast then .cast f.type else .direct)

end Accessor

/-- The accessors of one type. -/
structure AccessorGroup where
  /-- The header of the first field's container. -/
  header : TypeHeader
  accessors : List Accessor
  deriving DecidableEq, Repr, Inhabited

namespace AccessorGroup

/-- Puts an accessor into the group of its type, which is opened at the end if
there is none yet. -/
def insert (header : TypeHeader) (a : Accessor) : List AccessorGroup → List AccessorGroup
  | [] => [⟨header, [a]⟩]
  | g :: rest =>
    if g.header.identity = header.identity then ⟨g.header, g.accessors ++ [a]⟩ :: rest
    else g :: insert header a rest

/-- Groups accessors by the type they belong to. -/
def ofAccessors (accessors : List (TypeHeader × Accessor)) : List AccessorGroup :=
  accessors.foldl (fun groups (header, a) => insert header a groups) []

/-- Groups beside a table of their positions. -/
structure Indexed where
  groups : Array AccessorGroup
  positions : List (TypeIdentity × Nat)
  deriving DecidableEq, Repr, Inhabited

namespace Indexed

/-- No groups. -/
def empty : Indexed := ⟨#[], []⟩

/-- Puts an accessor into the group at the position of its type, which is opened
at the end if the table has none.  A position out of range is a failure. -/
def insert? (header : TypeHeader) (a : Accessor) (t : Indexed) : Option Indexed :=
  match t.positions.lookup header.identity with
  | some i =>
    match t.groups[i]? with
    | some g => some ⟨t.groups.setIfInBounds i ⟨g.header, g.accessors ++ [a]⟩, t.positions⟩
    | none => none
  | none =>
    some ⟨t.groups.push ⟨header, [a]⟩, (header.identity, t.groups.size) :: t.positions⟩

/-- Groups accessors by the type they belong to, with a table of positions. -/
def ofAccessors? (accessors : List (TypeHeader × Accessor)) : Option Indexed :=
  accessors.foldlM (fun t (header, a) => t.insert? header a) empty

end Indexed

end AccessorGroup

end AccessorGen
