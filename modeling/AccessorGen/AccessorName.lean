import AccessorGen.Text.Letter
import AccessorGen.Text.Uppercase

set_option autoImplicit false

/-!
# Accessor names

An accessor is named after its field: what stands before the first lower case
character is dropped, and that character is put in upper case.  A field without
any lower case character gives no name.

The name can be cut out by bytes as well: the lower case character stands at
some byte, and the rest of the name is a slice that begins behind it.  Slicing
fails at a byte that lies within a character.
-/

namespace AccessorGen.AccessorName

/-- The name used when a field gives none. -/
def fallback : String := "NoLetterCanUppercase"

/-- The characters of a name from the first lower case one on, that one in
upper case. -/
def promote? : List Char → Option (List Char)
  | [] => none
  | c :: rest => if Text.isLowercase c then some (Text.uppercase c ++ rest) else promote? rest

/-- The name of the accessor of a field. -/
def derive? (ident : String) : Option String := (promote? ident.toList).map String.ofList

/-- The first lower case character, and the byte at which it stands if the first
of the characters stands at `start`. -/
def firstLowercase? (start : Nat) : List Char → Option (Nat × Char)
  | [] => none
  | c :: rest =>
    if Text.isLowercase c then some (start, c) else firstLowercase? (start + c.utf8Size) rest

/-- The text from a byte on; there is none if the byte lies within a character or
behind the end of the text. -/
def sliceFrom? (text : String) (start : Nat) : Option String :=
  if String.Pos.Raw.isValid text ⟨start⟩ then
    some (String.Pos.Raw.extract text ⟨start⟩ text.rawEndPos)
  else none

/-- The name of the accessor of a field, cut out of the field's name by bytes,
unless the slicing fails. -/
def deriveSliced? (ident : String) : Option (Option String) :=
  match firstLowercase? 0 ident.toList with
  | none => some none
  | some (index, first) =>
    (sliceFrom? ident (index + first.utf8Size)).map fun rest =>
      some (String.ofList (Text.uppercase first) ++ rest)

/-- What is wrong with a field that gives no name. -/
def failureMessage (ident : String) : String :=
  "field '" ++ ident ++ "' has no lowercase letter to promote"

/-- A name is given exactly by the fields with a lower case character. -/
theorem promote?_eq_none_iff {cs : List Char} :
    promote? cs = none ↔ ∀ c ∈ cs, Text.isLowercase c = false := by
  induction cs with
  | nil => simp [promote?]
  | cons c rest ih =>
    unfold promote?
    by_cases h : Text.isLowercase c = true
    · simp [h]
    · simp [h, ih]

theorem derive?_eq_none_iff {ident : String} :
    derive? ident = none ↔ ∀ c ∈ ident.toList, Text.isLowercase c = false := by
  rw [derive?, Option.map_eq_none_iff, promote?_eq_none_iff]

end AccessorGen.AccessorName
