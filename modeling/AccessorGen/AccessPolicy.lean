set_option autoImplicit false

/-!
# Access policies

An access policy says who sees an accessor and whether it can be written.  The
fourteen policies are the pairs of a visibility and a mutability, except that a
private accessor has no separate private setter.  Each policy is a bit of a flag
set, in the order of the list.
-/

namespace AccessorGen

/-- Who sees an accessor. -/
inductive Visibility where
  | «public»
  | «private»
  | «protected»
  | internal
  | protectedInternal
  deriving DecidableEq, Repr, Inhabited

namespace Visibility

/-- All visibilities. -/
def all : List Visibility := [«public», «private», «protected», internal, protectedInternal]

/-- The modifiers written in front of an accessor. -/
def text : Visibility → String
  | «public» => "public"
  | «private» => "private"
  | «protected» => "protected"
  | internal => "internal"
  | protectedInternal => "protected internal"

/-- The one-word spelling used in documents. -/
def tag : Visibility → String
  | protectedInternal => "protected_internal"
  | v => v.text

/-- The visibility of that spelling. -/
def ofTag? (tag : String) : Option Visibility := all.find? (·.tag == tag)

end Visibility

/-- Which accessors a policy asks for. -/
inductive Mutability where
  | getOnly
  | getSet
  | getPrivateSet
  deriving DecidableEq, Repr, Inhabited

namespace Mutability

/-- All mutabilities. -/
def all : List Mutability := [getOnly, getSet, getPrivateSet]

/-- The accessor list as written in a declaration. -/
def text : Mutability → String
  | getOnly => "get"
  | getSet => "get; set"
  | getPrivateSet => "get; private set"

/-- The one-word spelling used in documents. -/
def tag : Mutability → String
  | getOnly => "get_only"
  | getSet => "get_set"
  | getPrivateSet => "get_private_set"

/-- The mutability of that spelling. -/
def ofTag? (tag : String) : Option Mutability := all.find? (·.tag == tag)

end Mutability

/-- A visibility and a mutability that go together. -/
inductive AccessPolicy where
  | publicGet
  | publicGetSet
  | publicGetPrivateSet
  | privateGet
  | privateGetSet
  | protectedGet
  | protectedGetSet
  | protectedGetPrivateSet
  | internalGet
  | internalGetSet
  | internalGetPrivateSet
  | protectedInternalGet
  | protectedInternalGetSet
  | protectedInternalGetPrivateSet
  deriving DecidableEq, Repr, Inhabited

namespace AccessPolicy

/-- All policies, in the order of their bits. -/
def all : List AccessPolicy :=
  [publicGet, publicGetSet, publicGetPrivateSet, privateGet, privateGetSet,
   protectedGet, protectedGetSet, protectedGetPrivateSet,
   internalGet, internalGetSet, internalGetPrivateSet,
   protectedInternalGet, protectedInternalGetSet, protectedInternalGetPrivateSet]

/-- The policy's name among the members of the policy enum. -/
def name : AccessPolicy → String
  | publicGet => "PublicGet"
  | publicGetSet => "PublicGetSet"
  | publicGetPrivateSet => "PublicGetPrivateSet"
  | privateGet => "PrivateGet"
  | privateGetSet => "PrivateGetSet"
  | protectedGet => "ProtectedGet"
  | protectedGetSet => "ProtectedGetSet"
  | protectedGetPrivateSet => "ProtectedGetPrivateSet"
  | internalGet => "InternalGet"
  | internalGetSet => "InternalGetSet"
  | internalGetPrivateSet => "InternalGetPrivateSet"
  | protectedInternalGet => "ProtectedInternalGet"
  | protectedInternalGetSet => "ProtectedInternalGetSet"
  | protectedInternalGetPrivateSet => "ProtectedInternalGetPrivateSet"

/-- Who sees the accessor. -/
def visibility : AccessPolicy → Visibility
  | publicGet | publicGetSet | publicGetPrivateSet => .public
  | privateGet | privateGetSet => .private
  | protectedGet | protectedGetSet | protectedGetPrivateSet => .protected
  | internalGet | internalGetSet | internalGetPrivateSet => .internal
  | protectedInternalGet | protectedInternalGetSet | protectedInternalGetPrivateSet =>
    .protectedInternal

/-- Which accessors there are. -/
def mutability : AccessPolicy → Mutability
  | publicGet | privateGet | protectedGet | internalGet | protectedInternalGet => .getOnly
  | publicGetSet | privateGetSet | protectedGetSet | internalGetSet
  | protectedInternalGetSet => .getSet
  | publicGetPrivateSet | protectedGetPrivateSet | internalGetPrivateSet
  | protectedInternalGetPrivateSet => .getPrivateSet

/-- The number of the policy's bit. -/
def bit (p : AccessPolicy) : Nat := all.idxOf p

/-- The policy as a set of one flag. -/
def flag (p : AccessPolicy) : Nat := 1 <<< p.bit

/-- The policy of that name. -/
def ofName? (name : String) : Option AccessPolicy := all.find? (·.name == name)

/-- The policy whose flag is that number; sets of several flags are none. -/
def ofFlag? (flags : Int) : Option AccessPolicy :=
  all.find? fun p => (p.flag : Int) == flags

/-- The policy made of a visibility and a mutability, if there is one. -/
def ofParts? (v : Visibility) (m : Mutability) : Option AccessPolicy :=
  all.find? fun p => p.visibility == v && p.mutability == m

/-- The policy with a setter of its own visibility in place of none. -/
def withSetter : AccessPolicy → AccessPolicy
  | publicGet => publicGetSet
  | privateGet => privateGetSet
  | protectedGet => protectedGetSet
  | internalGet => internalGetSet
  | protectedInternalGet => protectedInternalGetSet
  | p => p

theorem mem_all (p : AccessPolicy) : p ∈ all := by cases p <;> decide

@[simp] theorem ofName?_name (p : AccessPolicy) : ofName? p.name = some p := by
  cases p <;> decide

@[simp] theorem ofFlag?_flag (p : AccessPolicy) : ofFlag? p.flag = some p := by
  cases p <;> decide

@[simp] theorem ofParts?_visibility_mutability (p : AccessPolicy) :
    ofParts? p.visibility p.mutability = some p := by
  cases p <;> rfl

@[simp] theorem visibility_withSetter (p : AccessPolicy) :
    p.withSetter.visibility = p.visibility := by
  cases p <;> rfl

end AccessPolicy

end AccessorGen
