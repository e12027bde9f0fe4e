import AccessorGen.Text.Dotted

set_option autoImplicit false

/-!
# Settings

What can be chosen about a run of the generator.  The directive is the attribute
that marks a field; it may be named with or without the ending `Attribute` of
its class, and its base name is the one without.
-/

namespace AccessorGen

/-- The choices of the user. -/
structure Settings where
  /-- The name of the attribute that marks a field. -/
  directiveName : String := "AutoProp"
  /-- The namespace that the attribute is declared in. -/
  directiveScope : String := "AutoProperty"
  /-- A unit that declares the attribute is written too. -/
  emitsDefinition : Bool := true
  /-- Every unit begins with a line that marks it as generated. -/
  marksGenerated : Bool := true
  /-- The number of spaces for each level of nesting. -/
  indent : Nat := 4
  /-- The end of the names of generated units. -/
  fileSuffix : String := ".Generated.cs"
  deriving DecidableEq, Repr, Inhabited

namespace Settings

/-- The settings of a user who chooses nothing. -/
def standard : Settings := {}

/-- The ending of the names of attribute classes. -/
def classEnding : List Char := "Attribute".toList

/-- The directive's name without the ending of its class, unless it is nothing
else. -/
def baseName (s : Settings) : String :=
  let name := Text.trimChars s.directiveName.toList
  match Text.dropEnding? classEnding name with
  | some (c :: stem) => String.ofList (c :: stem)
  | _ => String.ofList name

/-- The name of the directive's class. -/
def className (s : Settings) : String := s.baseName ++ "Attribute"

end Settings

end AccessorGen
