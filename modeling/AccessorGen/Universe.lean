import AccessorGen.Field
import AccessorGen.TypeDecl

set_option autoImplicit false

/-!
# Type universes and snapshots

The declarations that type references are looked up in.  A reference names a
declaration by its qualified name, or by its simple name alone when just one
declaration with the same number of parameters has it.  The canonical form of a
reference replaces every name by the qualified name of what it denotes, so that
two spellings of one type have one canonical form.

A snapshot is the part of a program that accessors are made for: the types that
are declared and the fields to look at, each in the order the host lists them.
-/

namespace AccessorGen

/-- The declared types, in the order they are listed. -/
structure Universe where
  decls : List TypeDecl
  deriving DecidableEq, Repr, Inhabited

namespace Universe

/-- The first declaration of that qualified name and number of parameters. -/
def qualified? (u : Universe) (path : String) (arity : Nat) : Option TypeDecl :=
  u.decls.find? fun d => d.header.arity == arity && d.header.qualifiedName == path

/-- The only declaration of that simple name and number of parameters. -/
def simple? (u : Universe) (path : String) (arity : Nat) : Option TypeDecl :=
  match u.decls.filter fun d => d.header.arity == arity && d.header.name == path with
  | [d] => some d
  | _ => none

/-- The declaration that a path with that many arguments denotes: a qualified
name comes first, and only a path without dots can be a simple name. -/
def resolve? (u : Universe) (path : String) (arity : Nat) : Option TypeDecl :=
  match u.qualified? path arity with
  | some d => some d
  | none => if path.toList.contains '.' then none else u.simple? path arity

/-- The declaration that a reference denotes; only named types have one. -/
def find? (u : Universe) : TypeRef → Option TypeDecl
  | .named path args => u.resolve? path args.length
  | _ => none

/-- The qualified name of what a path denotes, or the path if that is nothing
declared. -/
def qualify (u : Universe) (path : String) (arity : Nat) : String :=
  match u.resolve? path arity with
  | some d => d.header.qualifiedName
  | none => path

mutual

/-- The reference with every name qualified. -/
def canonical (u : Universe) : TypeRef → TypeRef
  | .named path args => .generic (u.qualify path args.length) (canonicals u args)
  | .array element rank => .arrayOf (canonical u element) rank
  | .nullable inner => .optional (canonical u inner)

/-- The canonical forms of a list of references. -/
def canonicals (u : Universe) : List TypeRef → List TypeRef
  | [] => []
  | t :: ts => canonical u t :: canonicals u ts

end

theorem canonicals_eq_map (u : Universe) (ts : List TypeRef) :
    u.canonicals ts = ts.map u.canonical := by
  induction ts with
  | nil => rfl
  | cons t ts ih => simp [canonicals, ih]

@[simp] theorem find?_array (u : Universe) (t : TypeRef) (rank : UInt8) :
    u.find? (.array t rank) = none := rfl

@[simp] theorem find?_nullable (u : Universe) (t : TypeRef) :
    u.find? (.nullable t) = none := rfl

/-- In a canonical type no nullable type holds another one. -/
theorem canonical_ne_nullable_nullable (u : Universe) (t inner : TypeRef) :
    u.canonical t ≠ .nullable (.nullable inner) := by
  induction t with
  | named path args _ => simp [canonical, TypeRef.generic]
  | array element rank _ => simp [canonical, TypeRef.arrayOf]
  | nullable t ih =>
    simp only [canonical]
    cases h : u.canonical t with
    | named path args => simp [TypeRef.optional]
    | array element rank => simp [TypeRef.optional]
    | nullable t' =>
      rw [TypeRef.optional_nullable, ← h]
      exact ih

/-- What a path denotes is one of the declarations. -/
theorem mem_of_resolve? {u : Universe} {path : String} {arity : Nat} {d : TypeDecl}
    (h : u.resolve? path arity = some d) : d ∈ u.decls := by
  unfold resolve? at h
  split at h
  · rename_i e he
    obtain rfl : e = d := by simpa using h
    exact List.mem_of_find?_eq_some he
  · split at h
    · simp at h
    · unfold simple? at h
      split at h
      · rename_i e he
        obtain rfl : e = d := by simpa using h
        have : e ∈ u.decls.filter _ := he ▸ List.mem_singleton.mpr rfl
        exact (List.mem_filter.mp this).1
      · simp at h

end Universe

/-! ## Snapshots -/

/-- The declared types and the fields of a program. -/
structure Snapshot where
  types : List TypeDecl
  fields : List Field
  deriving DecidableEq, Repr, Inhabited

namespace Snapshot

/-- The snapshot without types and fields. -/
def empty : Snapshot := ⟨[], []⟩

/-- The types that references are looked up in. -/
def toUniverse (s : Snapshot) : Universe := ⟨s.types⟩

/-- The snapshot with one more type at its end. -/
def addType (s : Snapshot) (d : TypeDecl) : Snapshot := { s with types := s.types ++ [d] }

/-- The snapshot with one more field at its end. -/
def addField (s : Snapshot) (f : Field) : Snapshot := { s with fields := s.fields ++ [f] }

end Snapshot

end AccessorGen
