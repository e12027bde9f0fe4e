import AccessorGen.AccessorName
import AccessorGen.Proofs.Naming
import Mathlib.Data.String.Basic

set_option autoImplicit false

/-!
# Promotion

The name of an accessor is cut out of the field's name at the first lower case
character.  There is one such cut at most, and in bytes it lies between two
characters.  What stands behind it is part of an identifier, so the name is an
identifier as soon as the upper case of that one character can begin one.  That
upper case holds no lower case character, and so the name is never the field's
own.
-/

namespace AccessorGen

namespace Identifier

/-- All characters of an identifier but the first can stand in one. -/
theorem isPart_of_mem_tail {first : Char} {rest : List Char}
    (h : isWellFormed (first :: rest) = true) {c : Char} (hc : c ∈ rest) : isPart c = true := by
  refine isPart_of_mem_dropVerbatim h ?_
  unfold dropVerbatim
  split
  · rename_i heq
    rw [← (List.cons.inj heq).2]
    exact hc
  · exact List.mem_cons_of_mem first hc

theorem isPart_of_mem_behind {front rest : List Char} {first : Char}
    (h : isWellFormed (front ++ first :: rest) = true) {c : Char} (hc : c ∈ rest) :
    isPart c = true := by
  cases front with
  | nil => exact isPart_of_mem_tail h hc
  | cons d front =>
    exact isPart_of_mem_tail h (List.mem_append_right front (List.mem_cons_of_mem first hc))

end Identifier

namespace AccessorName

/-! ## Cutting a name -/

/-- The name is cut at its first lower case character. -/
structure IsCut (ident front : String) (first : Char) (rest : String) : Prop where
  whole : ident = front ++ String.singleton first ++ rest
  front : ∀ c ∈ front.toList, Text.isLowercase c = false
  first : Text.isLowercase first = true

theorem rawEndPos_eq (text : String) : text.rawEndPos = ⟨String.utf8Len text.toList⟩ := by
  rw [String.rawEndPos, ← String.utf8ByteSize_ofList, String.ofList_toList]

theorem extract_rawEndPos (front rest : String) :
    String.Pos.Raw.extract (front ++ rest) front.rawEndPos (front ++ rest).rawEndPos = rest := by
  have hsliced := String.extract_of_valid front.toList rest.toList []
  rw [List.append_nil, ← String.toList_append, String.ofList_toList, String.ofList_toList,
    ← String.utf8Len_append, ← String.toList_append, ← rawEndPos_eq, ← rawEndPos_eq] at hsliced
  exact hsliced

namespace IsCut

variable {ident front rest : String} {first : Char}

theorem toList_eq (h : IsCut ident front first rest) :
    ident.toList = front.toList ++ first :: rest.toList := by
  simp [h.whole]

/-- The front is as long as it can be without a lower case character. -/
theorem front_eq (h : IsCut ident front first rest) :
    front.toList = ident.toList.takeWhile fun c => !Text.isLowercase c := by
  have hfront : ∀ c ∈ front.toList, (!Text.isLowercase c) = true := by
    intro c hc
    rw [h.front c hc]
    rfl
  rw [h.toList_eq, List.takeWhile_append_of_pos hfront,
    List.takeWhile_cons_of_neg (by simp [h.first]), List.append_nil]

theorem unique {front' rest' : String} {first' : Char} (h : IsCut ident front first rest)
    (h' : IsCut ident front' first' rest') : front = front' ∧ first = first' ∧ rest = rest' := by
  have hfront : front.toList = front'.toList := h.front_eq.trans h'.front_eq.symm
  have hwhole := h.toList_eq.symm.trans h'.toList_eq
  rw [hfront] at hwhole
  obtain ⟨hfirst, hrest⟩ := List.cons.inj (List.append_cancel_left hwhole)
  exact ⟨String.toList_inj.mp hfront, hfirst, String.toList_inj.mp hrest⟩

/-- In bytes the cut lies between two characters, and what is sliced off behind
it is the rest. -/
theorem slice (h : IsCut ident front first rest) :
    String.Pos.Raw.IsValid ident (front.rawEndPos + first) ∧
      String.Pos.Raw.extract ident (front.rawEndPos + first) ident.rawEndPos = rest := by
  have hcut : front.rawEndPos + first = (front ++ String.singleton first).rawEndPos := by
    ext
    simp
  rw [h.whole, hcut]
  exact ⟨String.Pos.Raw.isValid_iff_exists_append.mpr ⟨_, rest, rfl, rfl⟩,
    extract_rawEndPos _ rest⟩

end IsCut

/-- A name with a lower case character can be cut. -/
theorem exists_isCut {ident : String} (h : ∃ c ∈ ident.toList, Text.isLowercase c = true) :
    ∃ front first rest, IsCut ident front first rest := by
  obtain ⟨first, hfirst⟩ := Option.isSome_iff_exists.mp (List.find?_isSome.mpr h)
  obtain ⟨hlower, front, rest, hwhole, hfront⟩ := List.find?_eq_some_iff_append.mp hfirst
  refine ⟨String.ofList front, first, String.ofList rest, ?_, ?_, hlower⟩
  · rw [← String.toList_inj, hwhole]
    simp
  · simpa using hfront

theorem promote?_append {front : List Char} (h : ∀ c ∈ front, Text.isLowercase c = false)
    {first : Char} (hfirst : Text.isLowercase first = true) (rest : List Char) :
    promote? (front ++ first :: rest) = some (Text.uppercase first ++ rest) := by
  induction front with
  | nil => simp [promote?, hfirst]
  | cons c front ih =>
    obtain ⟨hc, hfront⟩ := List.forall_mem_cons.mp h
    rw [List.cons_append, promote?, hc]
    exact ih hfront

/-- The name keeps the rest and has the cut's character in upper case. -/
theorem IsCut.derive?_eq {ident front rest : String} {first : Char}
    (h : IsCut ident front first rest) :
    derive? ident = some (String.ofList (Text.uppercase first) ++ rest) := by
  rw [derive?, h.toList_eq, promote?_append h.front h.first, Option.map_some, String.ofList_append,
    String.ofList_toList]

/-! ## Cutting by bytes -/

theorem firstLowercase?_append {front : List Char} (h : ∀ c ∈ front, Text.isLowercase c = false)
    {first : Char} (hfirst : Text.isLowercase first = true) (rest : List Char) (start : Nat) :
    firstLowercase? start (front ++ first :: rest) =
      some (start + String.utf8Len front, first) := by
  induction front generalizing start with
  | nil => simp [firstLowercase?, hfirst]
  | cons c front ih =>
    obtain ⟨hc, hfront⟩ := List.forall_mem_cons.mp h
    rw [List.cons_append, firstLowercase?, hc, if_neg Bool.false_ne_true, ih hfront,
      String.utf8Len_cons, Nat.add_comm (String.utf8Len front), Nat.add_assoc]

theorem firstLowercase?_eq_none {cs : List Char} (h : ∀ c ∈ cs, Text.isLowercase c = false)
    (start : Nat) : firstLowercase? start cs = none := by
  induction cs generalizing start with
  | nil => rfl
  | cons c rest ih =>
    obtain ⟨hc, hrest⟩ := List.forall_mem_cons.mp h
    rw [firstLowercase?, hc, if_neg Bool.false_ne_true, ih hrest]

/-- The first lower case character stands at the byte where the front ends. -/
theorem IsCut.firstLowercase?_eq {ident front rest : String} {first : Char}
    (h : IsCut ident front first rest) :
    firstLowercase? 0 ident.toList = some (front.utf8ByteSize, first) := by
  rw [h.toList_eq, firstLowercase?_append h.front h.first, Nat.zero_add,
    ← String.utf8ByteSize_ofList, String.ofList_toList]

/-- The slice behind that character is the rest. -/
theorem IsCut.sliceFrom?_eq {ident front rest : String} {first : Char}
    (h : IsCut ident front first rest) :
    sliceFrom? ident (front.utf8ByteSize + first.utf8Size) = some rest := by
  obtain ⟨hvalid, hextract⟩ := h.slice
  have hvalid' : String.Pos.Raw.isValid ident ⟨front.utf8ByteSize + first.utf8Size⟩ = true :=
    String.Pos.Raw.isValid_eq_true_iff.mpr hvalid
  rw [sliceFrom?, if_pos hvalid', Option.some.injEq]
  exact hextract

/-- Slicing never fails, and it gives the name. -/
theorem deriveSliced?_eq (ident : String) : deriveSliced? ident = some (derive? ident) := by
  by_cases hlower : ∃ c ∈ ident.toList, Text.isLowercase c = true
  · obtain ⟨front, first, rest, hcut⟩ := exists_isCut hlower
    rw [deriveSliced?, hcut.firstLowercase?_eq, hcut.derive?_eq]
    dsimp only
    rw [hcut.sliceFrom?_eq, Option.map_some]
  · have hnone : ∀ c ∈ ident.toList, Text.isLowercase c = false := by
      simpa using hlower
    rw [deriveSliced?, firstLowercase?_eq_none hnone, derive?_eq_none_iff.mpr hnone]

/-! ## What the name is made of -/

/-- The characters can open a name: the first is a letter, the others are letters
or numbers, and none is lower case. -/
def IsOpening (cs : List Char) : Prop :=
  (∃ c ∈ cs.head?, Text.isAlphabetic c = true) ∧
    ∀ c ∈ cs, Text.isLowercase c = false ∧ Text.isAlphanumeric c = true

instance (cs : List Char) : Decidable (IsOpening cs) :=
  @instDecidableAnd _ _ (Option.decidableExistsMem _) (List.decidableBAll _ cs)

/-- The letters of ASCII in upper case can open a name. -/
theorem isOpening_uppercase_of_isAlpha {c : Char} (h : c.isAlpha = true) :
    IsOpening (Text.uppercase c) := by
  have hletters : ∀ first ∈ ['A'.toNat, 'a'.toNat], ∀ k ∈ List.range 26,
      IsOpening (Text.uppercase (Char.ofNat (first + k))) := by
    decide +kernel
  have hrange : ∃ first ∈ ['A'.toNat, 'a'.toNat], first ≤ c.toNat ∧ c.toNat < first + 26 := by
    rcases Bool.or_eq_true_iff.mp h with hupper | hlower
    · obtain ⟨hfirst, hlast⟩ : c.val ≥ 'A'.val ∧ c.val ≤ 'Z'.val := of_decide_eq_true hupper
      exact ⟨'A'.toNat, List.mem_cons_self, hfirst, Nat.lt_succ_of_le hlast⟩
    · obtain ⟨hfirst, hlast⟩ := Bool.and_eq_true_iff.mp hlower
      exact ⟨'a'.toNat, List.mem_cons_of_mem _ List.mem_cons_self, of_decide_eq_true hfirst,
        Nat.lt_succ_of_le (of_decide_eq_true hlast)⟩
  obtain ⟨first, hmem, hfirst, hlast⟩ := hrange
  have hopening := hletters first hmem (c.toNat - first) (List.mem_range.mpr (by omega))
  rw [Nat.add_sub_cancel' hfirst, Char.ofNat_toNat] at hopening
  exact hopening

/-- An opening is a letter followed by characters that can stand in an
identifier. -/
theorem IsOpening.exists_cons {opening : List Char} (h : IsOpening opening) :
    ∃ c tail, opening = c :: tail ∧ Text.isAlphabetic c = true ∧
      ∀ d ∈ tail, Identifier.isPart d = true := by
  obtain ⟨⟨c, hc, hletter⟩, hall⟩ := h
  obtain ⟨tail, rfl⟩ := List.head?_eq_some_iff.mp hc
  refine ⟨c, tail, rfl, hletter, fun d hd => ?_⟩
  rw [Identifier.isPart, (hall d (List.mem_cons_of_mem c hd)).2, Bool.or_true]

theorem ne_at_of_isAlphabetic {c : Char} (h : Text.isAlphabetic c = true) : c ≠ '@' := by
  rintro rfl
  exact absurd h (by decide +kernel)

/-- What can stand in an identifier makes one behind an opening. -/
theorem isWellFormed_append {opening rest : List Char} (hopening : IsOpening opening)
    (hrest : ∀ c ∈ rest, Identifier.isPart c = true) :
    Identifier.isWellFormed (opening ++ rest) = true := by
  obtain ⟨c, tail, rfl, hletter, htail⟩ := hopening.exists_cons
  have hbare : Identifier.dropVerbatim (c :: tail ++ rest) = c :: (tail ++ rest) := by
    unfold Identifier.dropVerbatim
    split
    · rename_i heq
      exact absurd (List.cons.inj heq).1 (ne_at_of_isAlphabetic hletter)
    · rfl
  have hstart : Identifier.isStart c = true := by rw [Identifier.isStart, hletter, Bool.or_true]
  rw [Identifier.isWellFormed, hbare, Bool.and_eq_true, List.all_append, Bool.and_eq_true,
    List.all_eq_true, List.all_eq_true]
  exact ⟨hstart, htail, hrest⟩

/-! ## The name of an accessor -/

/-- The name that an identifier with a cut gives, if the upper case of the cut's
character can open a name. -/
theorem IsCut.check_name {ident front rest : String} {first : Char}
    (h : IsCut ident front first rest) (hident : Identifier.check ident = .ok ())
    (hopening : IsOpening (Text.uppercase first)) {name : String}
    (hname : derive? ident = some name) (hbytes : name.utf8ByteSize ≤ Identifier.maxBytes) :
    Identifier.check name = .ok () ∧ name.toList.head? ≠ some '@' ∧ name ≠ ident := by
  have hchars : name.toList = Text.uppercase first ++ rest.toList := by
    rw [h.derive?_eq, Option.some.injEq] at hname
    rw [← hname, String.toList_append, String.toList_ofList]
  have hrest : ∀ c ∈ rest.toList, Identifier.isPart c = true := by
    have hwell := (Identifier.check_eq_ok_iff.mp hident).2.2
    rw [h.toList_eq] at hwell
    exact fun c hc => Identifier.isPart_of_mem_behind hwell hc
  obtain ⟨c, tail, hcons, hletter, -⟩ := hopening.exists_cons
  have hhead : name.toList.head? = some c := by rw [hchars, hcons]; rfl
  refine ⟨Identifier.check_eq_ok_iff.mpr ⟨?_, hbytes, ?_⟩, ?_, ?_⟩
  · rintro rfl
    exact absurd hhead (by simp)
  · rw [hchars]
    exact isWellFormed_append hopening hrest
  · rw [hhead]
    exact fun heq => ne_at_of_isAlphabetic hletter (Option.some.inj heq)
  · -- The lower case character would stand in its own upper case.
    rintro rfl
    have hsame : Text.uppercase first ++ rest.toList =
        (front.toList ++ [first]) ++ rest.toList := by
      rw [← hchars, h.toList_eq, List.append_assoc]
      rfl
    have hmem : first ∈ Text.uppercase first := by
      rw [List.append_cancel_right hsame]
      exact List.mem_append_right _ List.mem_cons_self
    have hupper := (hopening.2 first hmem).1
    rw [h.first] at hupper
    exact absurd hupper (by simp)

/-- A field gives no name exactly if its own has no lower case character.
Otherwise that is cut in one way into a front without lower case characters, a
lower case character and the rest, and the name is the rest behind the upper case
of the character; in bytes, the rest is a slice that begins between two
characters.  So the name can be cut out by bytes, and slicing never fails.  The
name of an identifier is an identifier again, without an `@` and never the
field's own, if it is not too long and the upper case can open a name; that of an
ASCII letter can. -/
theorem derive?_exact (ident : String) :
    (derive? ident = none ↔ ∀ c ∈ ident.toList, Text.isLowercase c = false) ∧
    (derive? ident ≠ none →
      ∃! cut : String × Char × String, IsCut ident cut.1 cut.2.1 cut.2.2) ∧
    (∀ front first rest, IsCut ident front first rest →
      derive? ident = some (String.ofList (Text.uppercase first) ++ rest) ∧
        String.Pos.Raw.IsValid ident (front.rawEndPos + first) ∧
        String.Pos.Raw.extract ident (front.rawEndPos + first) ident.rawEndPos = rest) ∧
    deriveSliced? ident = some (derive? ident) ∧
    (∀ front first rest name, Identifier.check ident = .ok () → IsCut ident front first rest →
      IsOpening (Text.uppercase first) → derive? ident = some name →
      name.utf8ByteSize ≤ Identifier.maxBytes →
        Identifier.check name = .ok () ∧ name.toList.head? ≠ some '@' ∧ name ≠ ident) ∧
    ∀ c : Char, c.isAlpha = true → IsOpening (Text.uppercase c) := by
  refine ⟨derive?_eq_none_iff, ?_, ?_, deriveSliced?_eq ident, ?_, ?_⟩
  · intro hsome
    have hlower : ∃ c ∈ ident.toList, Text.isLowercase c = true := by
      simpa [derive?_eq_none_iff] using hsome
    obtain ⟨front, first, rest, hcut⟩ := exists_isCut hlower
    refine ⟨(front, first, rest), hcut, ?_⟩
    rintro ⟨front', first', rest'⟩ hcut'
    obtain ⟨rfl, rfl, rfl⟩ := hcut'.unique hcut
    rfl
  · intro front first rest hcut
    exact ⟨hcut.derive?_eq, hcut.slice⟩
  · intro front first rest name hident hcut hopening hname hbytes
    exact hcut.check_name hident hopening hname hbytes
  · intro c hc
    exact isOpening_uppercase_of_isAlpha hc

/-- A letter that becomes two in upper case, behind an underscore. -/
theorem derive?_street :
    Identifier.check "_ßtreet" = .ok () ∧ IsCut "_ßtreet" "_" 'ß' "treet" ∧
      IsOpening (Text.uppercase 'ß') ∧ derive? "_ßtreet" = some "SStreet" ∧
      "SStreet".utf8ByteSize ≤ Identifier.maxBytes ∧ Identifier.check "SStreet" = .ok () ∧
      "SStreet".toList.head? ≠ some '@' ∧ "SStreet" ≠ "_ßtreet" := by
  have hident : Identifier.check "_ßtreet" = .ok () := by rfl
  have hcut : IsCut "_ßtreet" "_" 'ß' "treet" :=
    { whole := by decide
      front := List.forall_mem_singleton.mpr (by decide)
      first := by decide +kernel }
  have hopening : IsOpening (Text.uppercase 'ß') := by decide +kernel
  have hname : derive? "_ßtreet" = some "SStreet" := by rfl
  have hbytes : "SStreet".utf8ByteSize ≤ Identifier.maxBytes := by decide
  obtain ⟨-, -, -, -, hcheck, -⟩ := derive?_exact "_ßtreet"
  exact ⟨hident, hcut, hopening, hname, hbytes,
    hcheck _ _ _ _ hident hcut hopening hname hbytes⟩

end AccessorName

end AccessorGen
