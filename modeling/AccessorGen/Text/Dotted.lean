import AccessorGen.Text.CodePoint

set_option autoImplicit false

/-!
# Text: trimmed and dotted names

A blank is a character with the Unicode property `White_Space`.  Trimming
removes the longest run of such characters at either end; the same operation
for another class of characters (the dots around a namespace) is `trimWith`.

Names of types, namespaces, attributes and enum members are written with dots
between their segments and may be anchored at the global namespace by a leading
`global::`.  The operations here take such a spelling apart.
-/

namespace AccessorGen.Text

/-! ## Blanks and trimming -/

/-- The code points with the property `White_Space`. -/
def blankRuns : List Run :=
  [⟨0x09, 0x0D, 1⟩, ⟨0x20, 0x20, 1⟩, ⟨0x85, 0x85, 1⟩, ⟨0xA0, 0xA0, 1⟩,
   ⟨0x1680, 0x1680, 1⟩, ⟨0x2000, 0x200A, 1⟩, ⟨0x2028, 0x2029, 1⟩,
   ⟨0x202F, 0x202F, 1⟩, ⟨0x205F, 0x205F, 1⟩, ⟨0x3000, 0x3000, 1⟩]

/-- The character is white space. -/
def isBlank (c : Char) : Bool := covered c.toNat blankRuns

/-- Drops the characters of a class at both ends. -/
def trimWith (p : Char → Bool) (cs : List Char) : List Char :=
  ((cs.dropWhile p).reverse.dropWhile p).reverse

/-- Drops the white space at both ends. -/
def trimChars (cs : List Char) : List Char := trimWith isBlank cs

/-- Drops the white space at both ends of a text. -/
def trim (s : String) : String := String.ofList (trimChars s.toList)

@[simp] theorem toList_trim (s : String) : (trim s).toList = trimChars s.toList := by
  simp [trim]

@[simp] theorem trimWith_nil (p : Char → Bool) : trimWith p [] = [] := rfl

/-! ## Dotted names -/

/-- Drops every leading `global::`. -/
def dropGlobal : List Char → List Char
  | 'g' :: 'l' :: 'o' :: 'b' :: 'a' :: 'l' :: ':' :: ':' :: rest => dropGlobal rest
  | cs => cs

/-- The segments between the dots; a name without a dot is its only segment. -/
def segments (s : String) : List String := (s.toList.splitOn '.').map String.ofList

/-- The characters after the last dot, or all of them if there is none. -/
def lastSegment (cs : List Char) : List Char :=
  (cs.reverse.takeWhile (· != '.')).reverse

/-- Drops the dots at both ends. -/
def trimDots (cs : List Char) : List Char := trimWith (· == '.') cs

/-- The name before an ending, if it has that ending. -/
def dropEnding? (ending cs : List Char) : Option (List Char) :=
  if ending.isSuffixOf cs then some (cs.take (cs.length - ending.length)) else none

@[simp] theorem dropGlobal_anchor (cs : List Char) :
    dropGlobal ("global::".toList ++ cs) = dropGlobal cs := by
  simp [dropGlobal]

/-- A name that is not anchored is left alone. -/
theorem dropGlobal_of_not_anchored {cs : List Char} (h : ¬ "global::".toList <+: cs) :
    dropGlobal cs = cs := by
  unfold dropGlobal
  split
  · exact absurd ⟨_, rfl⟩ h
  · rfl

/-- After dropping, no anchor is left. -/
theorem dropGlobal_dropGlobal (cs : List Char) :
    dropGlobal (dropGlobal cs) = dropGlobal cs := by
  fun_induction dropGlobal cs with
  | case1 rest ih => exact ih
  | case2 cs h => exact dropGlobal.eq_2 cs h

@[simp] theorem lastSegment_nil : lastSegment [] = [] := rfl

/-- An ending can be dropped exactly from the names that have it. -/
theorem dropEnding?_append (stem ending : List Char) :
    dropEnding? ending (stem ++ ending) = some stem := by
  simp [dropEnding?]

theorem eq_append_of_dropEnding? {ending cs stem : List Char}
    (h : dropEnding? ending cs = some stem) : cs = stem ++ ending := by
  unfold dropEnding? at h
  split at h
  · rename_i hs
    obtain ⟨init, rfl⟩ := List.isSuffixOf_iff_suffix.mp hs
    simp at h
    rw [h]
  · exact absurd h (by simp)

end AccessorGen.Text
