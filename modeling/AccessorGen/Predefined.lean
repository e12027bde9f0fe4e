set_option autoImplicit false

/-!
# Predefined types

The types the language names by a keyword.  Each has a framework name too, and
both spellings mean the same type.  The arithmetic types convert into each
other: a widening conversion is implicit, any other explicit.
-/

namespace AccessorGen

/-- A type with a keyword. -/
inductive Predefined where
  | bool
  | byte
  | char
  | decimal
  | double
  | float
  | int
  | long
  | object
  | sbyte
  | short
  | string
  | uint
  | ulong
  | ushort
  deriving DecidableEq, Repr, Inhabited

namespace Predefined

/-- All predefined types, in the order of their keywords. -/
def all : List Predefined :=
  [bool, byte, char, decimal, double, float, int, long, object, sbyte, short, string,
   uint, ulong, ushort]

/-- The keyword. -/
def keyword : Predefined → String
  | bool => "bool"
  | byte => "byte"
  | char => "char"
  | decimal => "decimal"
  | double => "double"
  | float => "float"
  | int => "int"
  | long => "long"
  | object => "object"
  | sbyte => "sbyte"
  | short => "short"
  | string => "string"
  | uint => "uint"
  | ulong => "ulong"
  | ushort => "ushort"

/-- The name of the type in the framework's library. -/
def framework : Predefined → String
  | bool => "System.Boolean"
  | byte => "System.Byte"
  | char => "System.Char"
  | decimal => "System.Decimal"
  | double => "System.Double"
  | float => "System.Single"
  | int => "System.Int32"
  | long => "System.Int64"
  | object => "System.Object"
  | sbyte => "System.SByte"
  | short => "System.Int16"
  | string => "System.String"
  | uint => "System.UInt32"
  | ulong => "System.UInt64"
  | ushort => "System.UInt16"

/-- The predefined type of that keyword or framework name. -/
def ofName? (name : String) : Option Predefined :=
  all.find? fun p => p.keyword == name || p.framework == name

/-- The type is one of numbers. -/
def isNumeric : Predefined → Bool
  | bool | char | object | string => false
  | _ => true

/-- The type takes part in the conversions between numbers, as `char` does. -/
def isArithmetic (p : Predefined) : Bool := p.isNumeric || p == char

/-- The types that hold every value of the given one, so that the conversion is
implicit. -/
def wider : Predefined → List Predefined
  | sbyte => [short, int, long, float, double, decimal]
  | byte => [short, ushort, int, uint, long, ulong, float, double, decimal]
  | short => [int, long, float, double, decimal]
  | ushort => [int, uint, long, ulong, float, double, decimal]
  | int => [long, float, double, decimal]
  | uint => [long, ulong, float, double, decimal]
  | long => [float, double, decimal]
  | ulong => [float, double, decimal]
  | char => [ushort, int, uint, long, ulong, float, double, decimal]
  | float => [double]
  | _ => []

/-- The conversion between the two types is implicit. -/
def widensTo (p q : Predefined) : Bool := p.wider.contains q

theorem mem_all (p : Predefined) : p ∈ all := by cases p <;> decide

@[simp] theorem ofName?_keyword (p : Predefined) : ofName? p.keyword = some p := by
  cases p <;> decide

@[simp] theorem ofName?_framework (p : Predefined) : ofName? p.framework = some p := by
  cases p <;> decide

/-- Exactly two names mean a given predefined type. -/
theorem ofName?_eq_some_iff {name : String} {p : Predefined} :
    ofName? name = some p ↔ name = p.keyword ∨ name = p.framework := by
  constructor
  · intro h
    have := List.find?_some h
    simp only [Bool.or_eq_true, beq_iff_eq] at this
    rcases this with h' | h'
    · exact .inl h'.symm
    · exact .inr h'.symm
  · rintro (rfl | rfl) <;> simp

end Predefined

end AccessorGen
