import AccessorGen.Text.Dotted
import AccessorGen.Text.Letter

set_option autoImplicit false

/-!
# Identifiers

The rule that names in a program follow: a letter or an underscore, then
letters, numbers and underscores, with an optional `@` in front.  A namespace is
a list of identifiers with dots between them.
-/

namespace AccessorGen

/-- Why a name is no identifier. -/
inductive NameFault where
  | empty
  | tooLong (name : String)
  | malformed (name : String)
  deriving DecidableEq, Repr, Inhabited

namespace Identifier

/-- The most bytes an identifier can have. -/
def maxBytes : Nat := 512

/-- The character can begin an identifier. -/
def isStart (c : Char) : Bool := c == '_' || Text.isAlphabetic c

/-- The character can stand in an identifier. -/
def isPart (c : Char) : Bool := c == '_' || Text.isAlphanumeric c

/-- The name without the `@` that makes a keyword an identifier. -/
def dropVerbatim : List Char → List Char
  | '@' :: rest => rest
  | cs => cs

/-- The characters follow the rule for identifiers. -/
def isWellFormed (cs : List Char) : Bool :=
  match dropVerbatim cs with
  | [] => false
  | c :: rest => isStart c && rest.all isPart

/-- The first reason why a name is no identifier. -/
def check (name : String) : Except NameFault Unit :=
  if name = "" then .error .empty
  else if maxBytes < name.utf8ByteSize then .error (.tooLong name)
  else if isWellFormed name.toList then .ok ()
  else .error (.malformed name)

theorem isPart_of_isStart {c : Char} (h : isStart c = true) : isPart c = true := by
  simp only [isStart, isPart, Text.isAlphanumeric, Bool.or_eq_true] at h ⊢
  rcases h with h | h
  · exact .inl h
  · exact .inr (.inl h)

end Identifier

namespace NameFault

/-- What is wrong with the name. -/
def message : NameFault → String
  | empty => "ident is empty"
  | tooLong name =>
    "ident '" ++ name ++ "' exceeds max length " ++ toString Identifier.maxBytes
  | malformed name => "ident '" ++ name ++ "' is not a valid identifier"

end NameFault

/-- The first segment of a namespace that is no identifier. -/
structure ScopeFault where
  scope : String
  fault : NameFault
  deriving DecidableEq, Repr, Inhabited

/-- What is wrong with the namespace. -/
def ScopeFault.message (f : ScopeFault) : String :=
  "namespace '" ++ f.scope ++ "': " ++ f.fault.message

/-- The first reason why a text is no namespace. -/
def checkScope (scope : String) : Except ScopeFault Unit :=
  match (Text.segments scope).findSome? fun segment =>
      match Identifier.check segment with
      | .ok () => none
      | .error fault => some fault with
  | some fault => .error ⟨scope, fault⟩
  | none => .ok ()

end AccessorGen
