import AccessorGen.Proofs.Lookup
import AccessorGen.Proofs.Naming
import AccessorGen.Proofs.Nesting

set_option autoImplicit false

/-!
# Written types

The text of a type denotes one type.  Its last character tells how the type is
built, and what is written in front of it is the text of the parts.  Arguments
are told apart by the commas between them: a comma that belongs to an argument
stands between brackets of that argument.

The brackets of nested arrays stand in the order in which the arrays are built,
the innermost next to the element.
-/

namespace AccessorGen

open Nesting

/-! ## Brackets -/

namespace Text

/-- Angle and square brackets lead down and back. -/
def bracketWeight (c : Char) : Int :=
  if c = '<' ∨ c = '[' then 1 else if c = '>' ∨ c = ']' then -1 else 0

/-- A comma stands between brackets. -/
def IsInside (depth : Int) (c : Char) : Prop := c = ',' → 0 < depth

section Comma

variable {xs ys us vs : List Char}

/-- Behind a text of matching brackets a comma is not inside. -/
theorem ne_append_comma (hxs : IsNested bracketWeight IsInside xs)
    (hys : IsNested bracketWeight IsInside ys) (rest : List Char) : xs ≠ ys ++ ',' :: rest := by
  intro h
  have hinside := (hxs.fits ys ',' rest h).2 rfl
  rw [hys.closed] at hinside
  exact absurd hinside (by decide)

/-- Such texts are told apart by the comma behind them. -/
theorem append_comma_inj (hxs : IsNested bracketWeight IsInside xs)
    (hys : IsNested bracketWeight IsInside ys) (h : xs ++ ',' :: us = ys ++ ',' :: vs) :
    xs = ys ∧ us = vs :=
  append_cons_inj_of_ne h (ne_append_comma hxs hys) (ne_append_comma hys hxs)

end Comma

end Text

namespace TypeRef

/-- The character is one that paths are made of. -/
def IsPathChar (c : Char) : Prop := Identifier.isPart c = true ∨ c = '@' ∨ c = '.'

instance (c : Char) : Decidable (IsPathChar c) := inferInstanceAs (Decidable (_ ∨ _))

/-- The characters that are written around paths. -/
def marks : List Char := ['<', '>', '[', ']', ',', '?']

theorem not_mem_marks_of_isPathChar {c : Char} (h : IsPathChar c) : c ∉ marks := by
  have hmarks : marks.filter (fun m => IsPathChar m) = [] := by decide +kernel
  exact fun hmem => List.filter_eq_nil_iff.mp hmarks c hmem (decide_eq_true h)

mutual

/-- The ranks of all array types in the reference. -/
def ranks : TypeRef → List UInt8
  | .named _ args => allRanks args
  | .array element rank => rank :: ranks element
  | .nullable inner => ranks inner

/-- The ranks of all array types in the references. -/
def allRanks : List TypeRef → List UInt8
  | [] => []
  | t :: ts => ranks t ++ allRanks ts

end

theorem mem_allRanks_iff {rank : UInt8} {ts : List TypeRef} :
    rank ∈ allRanks ts ↔ ∃ t ∈ ts, rank ∈ t.ranks := by
  induction ts with
  | nil => simp [allRanks]
  | cons t ts ih => simp [allRanks, ih]

/-- The paths in the reference are made of characters that paths are made of, and
its arrays have ranks. -/
structure IsLegible (t : TypeRef) : Prop where
  paths : ∀ path ∈ t.paths, path ≠ "" ∧ ∀ c ∈ path.toList, IsPathChar c
  ranks : ∀ rank ∈ t.ranks, 1 ≤ rank

instance (t : TypeRef) : Decidable t.IsLegible :=
  -- Not all characters and ranks are to be tried, but those in the lists.
  have (path : String) : Decidable (∀ c ∈ path.toList, IsPathChar c) :=
    List.decidableBAll IsPathChar path.toList
  have : Decidable (∀ rank ∈ t.ranks, 1 ≤ rank) := List.decidableBAll (1 ≤ ·) t.ranks
  decidable_of_iff ((∀ path ∈ t.paths, path ≠ "" ∧ ∀ c ∈ path.toList, IsPathChar c) ∧
    ∀ rank ∈ t.ranks, 1 ≤ rank) ⟨fun h => ⟨h.1, h.2⟩, fun h => ⟨h.paths, h.ranks⟩⟩

theorem isLegible_named_iff {path : String} {args : List TypeRef} :
    (named path args).IsLegible ↔
      (path ≠ "" ∧ ∀ c ∈ path.toList, IsPathChar c) ∧ ∀ a ∈ args, a.IsLegible := by
  constructor
  · intro h
    refine ⟨h.paths path List.mem_cons_self, fun a ha => ⟨?_, ?_⟩⟩
    · intro p hp
      exact h.paths p (List.mem_cons_of_mem path (mem_allPaths_iff.mpr ⟨a, ha, hp⟩))
    · intro r hr
      exact h.ranks r (mem_allRanks_iff.mpr ⟨a, ha, hr⟩)
  · rintro ⟨hpath, hargs⟩
    refine ⟨List.forall_mem_cons.mpr ⟨hpath, ?_⟩, ?_⟩
    · intro p hp
      obtain ⟨a, ha, hp⟩ := mem_allPaths_iff.mp hp
      exact (hargs a ha).paths p hp
    · intro r hr
      obtain ⟨a, ha, hr⟩ := mem_allRanks_iff.mp hr
      exact (hargs a ha).ranks r hr

theorem isLegible_array_iff {element : TypeRef} {rank : UInt8} :
    (array element rank).IsLegible ↔ element.IsLegible ∧ 1 ≤ rank := by
  constructor
  · intro h
    obtain ⟨hrank, hranks⟩ := List.forall_mem_cons.mp h.ranks
    exact ⟨⟨h.paths, hranks⟩, hrank⟩
  · rintro ⟨helement, hrank⟩
    exact ⟨helement.paths, List.forall_mem_cons.mpr ⟨hrank, helement.ranks⟩⟩

theorem isLegible_nullable_iff {inner : TypeRef} :
    (nullable inner).IsLegible ↔ inner.IsLegible :=
  ⟨fun h => ⟨h.paths, h.ranks⟩, fun h => ⟨h.paths, h.ranks⟩⟩

/-! ## Texts as characters -/

/-- The arguments as they are written between angle brackets. -/
def argumentChars (args : List TypeRef) : List Char := (", ".intercalate (args.map text)).toList

theorem argumentChars_singleton (arg : TypeRef) : argumentChars [arg] = arg.text.toList := by
  simp [argumentChars]

theorem argumentChars_cons_cons (arg next : TypeRef) (args : List TypeRef) :
    argumentChars (arg :: next :: args) =
      arg.text.toList ++ ',' :: ' ' :: argumentChars (next :: args) := by
  simp [argumentChars, String.intercalate_cons_cons]

theorem toList_text_generic (path : String) (arg : TypeRef) (args : List TypeRef) :
    (named path (arg :: args)).text.toList =
      path.toList ++ '<' :: (argumentChars (arg :: args) ++ ['>']) := by
  simp [text, texts_eq_map, argumentChars]

theorem toList_text_array (element : TypeRef) (rank : UInt8) :
    (array element rank).text.toList =
      element.text.toList ++ '[' :: (List.replicate (rank.toNat - 1) ',' ++ [']']) := by
  simp [text, rankText]

theorem toList_text_nullable (inner : TypeRef) :
    (nullable inner).text.toList = inner.text.toList ++ ['?'] := by
  simp [text]

/-! ## Brackets and commas in a text -/

theorem isNested_path {path : String} (h : ∀ c ∈ path.toList, IsPathChar c) :
    IsNested Text.bracketWeight Text.IsInside path.toList := by
  refine IsNested.of_flat fun c hc => ?_
  have hmark := not_mem_marks_of_isPathChar (h c hc)
  simp only [marks, List.mem_cons, List.not_mem_nil, or_false, not_or] at hmark
  obtain ⟨hless, hgreater, hopening, hclosing, hcomma, -⟩ := hmark
  exact ⟨by simp [Text.bracketWeight, hless, hgreater, hopening, hclosing],
    fun heq => absurd heq hcomma⟩

/-- Between the angle brackets the commas between arguments are inside, too. -/
theorem isNested_argumentChars {args : List TypeRef}
    (h : ∀ a ∈ args, IsNested Text.bracketWeight Text.IsInside a.text.toList) :
    IsNested Text.bracketWeight (fun d => Text.IsInside (1 + d)) (argumentChars args) := by
  have hdeeper : ∀ a ∈ args, IsNested Text.bracketWeight (fun d => Text.IsInside (1 + d))
      a.text.toList := by
    intro a ha
    refine (h a ha).mono fun d c hnonneg _ hc => ?_
    omega
  clear h
  induction args with
  | nil => exact IsNested.nil
  | cons arg args ih =>
    have harg := hdeeper arg List.mem_cons_self
    have hrest := ih fun a ha => hdeeper a (List.mem_cons_of_mem arg ha)
    cases args with
    | nil =>
      rw [argumentChars_singleton]
      exact harg
    | cons next args =>
      rw [argumentChars_cons_cons]
      have hseparator : IsNested Text.bracketWeight (fun d => Text.IsInside (1 + d))
          [',', ' '] := by
        refine IsNested.of_flat fun c hc => ?_
        rcases List.mem_pair.mp hc with rfl | rfl
        · exact ⟨rfl, fun _ => by decide⟩
        · exact ⟨rfl, nofun⟩
      exact harg.append (hseparator.append hrest)

/-- The brackets in the text of a type match, and every comma stands between
some. -/
theorem isNested_text {t : TypeRef} (h : t.IsLegible) :
    IsNested Text.bracketWeight Text.IsInside t.text.toList := by
  induction t with
  | named path args ih =>
    obtain ⟨⟨-, hpath⟩, hargs⟩ := isLegible_named_iff.mp h
    cases args with
    | nil => exact isNested_path hpath
    | cons arg args =>
      rw [toList_text_generic]
      refine (isNested_path hpath).append (IsNested.wrap rfl rfl nofun nofun ?_)
      exact isNested_argumentChars fun a ha => ih a ha (hargs a ha)
  | array element rank ih =>
    rw [toList_text_array]
    refine (ih (isLegible_array_iff.mp h).1).append (IsNested.wrap rfl rfl nofun nofun ?_)
    refine IsNested.of_flat fun c hc => ?_
    obtain rfl := List.eq_of_mem_replicate hc
    exact ⟨rfl, fun _ => by decide⟩
  | nullable inner ih =>
    rw [toList_text_nullable]
    refine (ih (isLegible_nullable_iff.mp h)).append (IsNested.of_flat fun c hc => ?_)
    obtain rfl := List.mem_singleton.mp hc
    exact ⟨rfl, nofun⟩

/-! ## The end of a text -/

/-- The mark at the end of a type's text; a path has none. -/
def ending? : TypeRef → Option Char
  | .named _ [] => none
  | .named _ (_ :: _) => some '>'
  | .array _ _ => some ']'
  | .nullable _ => some '?'

/-- The text tells by its last character how the type is built. -/
theorem filter_getLast?_text {t : TypeRef} (h : t.IsLegible) :
    t.text.toList.getLast?.filter (· ∈ marks) = t.ending? := by
  cases t with
  | named path args =>
    cases args with
    | nil =>
      obtain ⟨⟨-, hpath⟩, -⟩ := isLegible_named_iff.mp h
      refine Option.filter_eq_none_iff.mpr fun c hc => ?_
      have hlast : c ∈ path.toList := List.mem_of_getLast? hc
      simpa using not_mem_marks_of_isPathChar (hpath c hlast)
    | cons arg args =>
      rw [toList_text_generic, ← List.cons_append, ← List.append_assoc, List.getLast?_concat]
      rfl
  | array element rank =>
    rw [toList_text_array, ← List.cons_append, ← List.append_assoc, List.getLast?_concat]
    rfl
  | nullable inner =>
    rw [toList_text_nullable, List.getLast?_concat]
    rfl

/-! ## Reading a text back -/

/-- Arguments that are written alike are the same, if that holds of each. -/
theorem eq_of_argumentChars_eq {arg arg' : TypeRef} {args args' : List TypeRef}
    (hargs : ∀ a ∈ arg :: args, a.IsLegible) (hargs' : ∀ a ∈ arg' :: args', a.IsLegible)
    (hinj : ∀ a ∈ arg :: args, ∀ u : TypeRef, u.IsLegible → a.text = u.text → a = u)
    (h : argumentChars (arg :: args) = argumentChars (arg' :: args')) :
    arg :: args = arg' :: args' := by
  induction args generalizing arg arg' args' with
  | nil =>
    cases args' with
    | nil =>
      simp only [argumentChars_singleton, String.toList_inj] at h
      rw [hinj arg List.mem_cons_self arg' (hargs' arg' List.mem_cons_self) h]
    | cons next' args' =>
      rw [argumentChars_singleton, argumentChars_cons_cons] at h
      exact absurd h (Text.ne_append_comma (isNested_text (hargs arg List.mem_cons_self))
        (isNested_text (hargs' arg' List.mem_cons_self)) _)
  | cons next args ih =>
    cases args' with
    | nil =>
      rw [argumentChars_singleton, argumentChars_cons_cons] at h
      exact absurd h.symm (Text.ne_append_comma
        (isNested_text (hargs' arg' List.mem_cons_self))
        (isNested_text (hargs arg List.mem_cons_self)) _)
    | cons next' args' =>
      rw [argumentChars_cons_cons, argumentChars_cons_cons] at h
      obtain ⟨hhead, hrest⟩ := Text.append_comma_inj
        (isNested_text (hargs arg List.mem_cons_self))
        (isNested_text (hargs' arg' List.mem_cons_self)) h
      have harg := hinj arg List.mem_cons_self arg' (hargs' arg' List.mem_cons_self)
        (String.toList_inj.mp hhead)
      have hothers := ih (fun a ha => hargs a (List.mem_cons_of_mem arg ha))
        (fun a ha => hargs' a (List.mem_cons_of_mem arg' ha))
        (fun a ha => hinj a (List.mem_cons_of_mem arg ha)) (List.cons.inj hrest).2
      rw [harg, hothers]

/-- A path ends where the first mark stands. -/
theorem append_mark_inj {path path' : String} {m : Char} {us vs : List Char} (hm : m ∈ marks)
    (hpath : ∀ c ∈ path.toList, IsPathChar c) (hpath' : ∀ c ∈ path'.toList, IsPathChar c)
    (h : path.toList ++ m :: us = path'.toList ++ m :: vs) : path = path' ∧ us = vs := by
  have hne : ∀ p q : String, (∀ c ∈ p.toList, IsPathChar c) →
      ∀ rest, p.toList ≠ q.toList ++ m :: rest := by
    intro p q hp rest heq
    have hmem : m ∈ p.toList := heq ▸ List.mem_append_right _ List.mem_cons_self
    exact not_mem_marks_of_isPathChar (hp m hmem) hm
  obtain ⟨hchars, hrest⟩ := append_cons_inj_of_ne h (hne path path' hpath) (hne path' path hpath')
  exact ⟨String.toList_inj.mp hchars, hrest⟩

/-- Brackets with the same commas are those of the same rank. -/
theorem eq_of_replicate_eq {rank rank' : UInt8} (hrank : 1 ≤ rank) (hrank' : 1 ≤ rank')
    (h : List.replicate (rank.toNat - 1) ',' = List.replicate (rank'.toNat - 1) ',') :
    rank = rank' := by
  have hlength := congrArg List.length h
  rw [List.length_replicate, List.length_replicate] at hlength
  rw [UInt8.le_iff_toNat_le] at hrank hrank'
  have hone : (1 : UInt8).toNat = 1 := rfl
  exact UInt8.toNat_inj.mp (by omega)

theorem ending?_eq {t u : TypeRef} (ht : t.IsLegible) (hu : u.IsLegible) (h : t.text = u.text) :
    t.ending? = u.ending? := by
  rw [← filter_getLast?_text ht, ← filter_getLast?_text hu, h]

/-- A name and its arguments can be told from what is written, if each of the
arguments can. -/
theorem named_eq_of_text_eq {path path' : String} {args args' : List TypeRef}
    (ht : (named path args).IsLegible) (hu : (named path' args').IsLegible)
    (hinj : ∀ a ∈ args, ∀ u : TypeRef, u.IsLegible → a.text = u.text → a = u)
    (h : (named path args).text = (named path' args').text) :
    named path args = named path' args' := by
  have hend := ending?_eq ht hu h
  obtain ⟨⟨-, hpath⟩, hargs⟩ := isLegible_named_iff.mp ht
  obtain ⟨⟨-, hpath'⟩, hargs'⟩ := isLegible_named_iff.mp hu
  cases args with
  | nil =>
    cases args' with
    | nil => rw [show path = path' from h]
    | cons arg' args' => simp [ending?] at hend
  | cons arg args =>
    cases args' with
    | nil => simp [ending?] at hend
    | cons arg' args' =>
      have hchars := congrArg String.toList h
      rw [toList_text_generic, toList_text_generic] at hchars
      obtain ⟨rfl, hinner⟩ := append_mark_inj (by decide) hpath hpath' hchars
      rw [eq_of_argumentChars_eq hargs hargs' hinj (List.append_cancel_right hinner)]

/-- The brackets of an array hold no bracket, so that they can be taken off. -/
theorem array_inj_of_text_eq {element element' : TypeRef} {rank rank' : UInt8}
    (hrank : 1 ≤ rank) (hrank' : 1 ≤ rank')
    (h : (array element rank).text = (array element' rank').text) :
    element.text = element'.text ∧ rank = rank' := by
  have hchars := congrArg String.toList h
  rw [toList_text_array, toList_text_array] at hchars
  have hcommas : ∀ n : Nat, '[' ∉ List.replicate n ',' ++ [']'] := by simp
  obtain ⟨hinner, hbrackets⟩ := Text.append_cons_inj (hcommas _) (hcommas _) hchars
  exact ⟨String.toList_inj.mp hinner,
    eq_of_replicate_eq hrank hrank' (List.append_cancel_right hbrackets)⟩

theorem nullable_inj_of_text_eq {inner inner' : TypeRef}
    (h : (nullable inner).text = (nullable inner').text) : inner.text = inner'.text := by
  have hchars := congrArg String.toList h
  rw [toList_text_nullable, toList_text_nullable] at hchars
  exact String.toList_inj.mp (List.append_cancel_right hchars)

/-- Two types are written alike exactly if they are the same. -/
theorem text_eq_iff {t u : TypeRef} (ht : t.IsLegible) (hu : u.IsLegible) :
    t.text = u.text ↔ t = u := by
  refine ⟨fun h => ?_, congrArg text⟩
  -- The texts end alike, so the types are built alike; all other cases are void.
  induction t generalizing u with
  | named path args ih =>
    have hend := ending?_eq ht hu h
    cases u with
    | named path' args' =>
      have hargs := (isLegible_named_iff.mp ht).2
      exact named_eq_of_text_eq ht hu (fun a ha u hu hau => ih a ha (hargs a ha) hu hau) h
    | array element' rank' => cases args <;> simp [ending?] at hend
    | nullable inner' => cases args <;> simp [ending?] at hend
  | array element rank ih =>
    have hend := ending?_eq ht hu h
    cases u with
    | named path' args' => cases args' <;> simp [ending?] at hend
    | array element' rank' =>
      obtain ⟨helement, hrank⟩ := isLegible_array_iff.mp ht
      obtain ⟨helement', hrank'⟩ := isLegible_array_iff.mp hu
      obtain ⟨hinner, rfl⟩ := array_inj_of_text_eq hrank hrank' h
      rw [ih helement helement' hinner]
    | nullable inner' => simp [ending?] at hend
  | nullable inner ih =>
    have hend := ending?_eq ht hu h
    cases u with
    | named path' args' => cases args' <;> simp [ending?] at hend
    | array element' rank' => simp [ending?] at hend
    | nullable inner' =>
      have hinner := nullable_inj_of_text_eq h
      rw [ih (isLegible_nullable_iff.mp ht) (isLegible_nullable_iff.mp hu) hinner]

end TypeRef

/-! ## Two types that differ in a comma -/

namespace Catalogue

/-- A type with an array and a nullable type among its arguments. -/
def byCell (rank : UInt8) : TypeRef :=
  .array (.nullable (.named "System.Collections.Generic.Dictionary"
    [.array (.named "int" []) rank, .nullable (.named "@class" [])])) 1

theorem text_byCell_ne :
    (byCell 2).IsLegible ∧ (byCell 3).IsLegible ∧ (byCell 2).text ≠ (byCell 3).text := by
  have htwo : (byCell 2).IsLegible := by decide +kernel
  have hthree : (byCell 3).IsLegible := by decide +kernel
  have hne : byCell 2 ≠ byCell 3 := by decide
  exact ⟨htwo, hthree, fun h => hne ((TypeRef.text_eq_iff htwo hthree).mp h)⟩

end Catalogue

namespace TypeRef

/-! ## Nested arrays -/

/-- The array type with those ranks, the first one next to the element. -/
def arrays (element : TypeRef) (ranks : List UInt8) : TypeRef := ranks.foldl arrayOf element

/-- The brackets of the ranks, one behind the other. -/
def rankTexts (ranks : List UInt8) : String := String.join (ranks.map rankText)

@[simp] theorem rankTexts_nil : rankTexts [] = "" := rfl

@[simp] theorem rankTexts_cons (rank : UInt8) (ranks : List UInt8) :
    rankTexts (rank :: ranks) = rankText rank ++ rankTexts ranks := by
  simp [rankTexts]

theorem text_arrayOf (element : TypeRef) (rank : UInt8) :
    (arrayOf element rank).text = element.text ++ rankText rank := by
  unfold arrayOf
  split
  · rename_i hzero
    rw [hzero]
    rfl
  · rfl

/-- The brackets of nested arrays are written from the inside out. -/
theorem text_arrays (element : TypeRef) (ranks : List UInt8) :
    (arrays element ranks).text = element.text ++ rankTexts ranks := by
  induction ranks generalizing element with
  | nil => simp [arrays]
  | cons rank ranks ih =>
    rw [arrays, List.foldl_cons, ← arrays, ih, text_arrayOf, rankTexts_cons, String.append_assoc]

theorem toList_rankTexts_cons (rank : UInt8) (ranks : List UInt8) :
    (rankTexts (rank :: ranks)).toList =
      ('[' :: List.replicate (rank.toNat - 1) ',') ++ ']' :: (rankTexts ranks).toList := by
  simp [rankText]

/-- The ranks can be told from their brackets. -/
theorem rankTexts_inj {ranks ranks' : List UInt8} (hranks : ∀ r ∈ ranks, 1 ≤ r)
    (hranks' : ∀ r ∈ ranks', 1 ≤ r) (h : rankTexts ranks = rankTexts ranks') :
    ranks = ranks' := by
  induction ranks generalizing ranks' with
  | nil =>
    cases ranks' with
    | nil => rfl
    | cons rank' ranks' =>
      have hchars := congrArg String.toList h
      rw [toList_rankTexts_cons] at hchars
      simp at hchars
  | cons rank ranks ih =>
    have hchars := congrArg String.toList h
    cases ranks' with
    | nil =>
      rw [toList_rankTexts_cons] at hchars
      simp at hchars
    | cons rank' ranks' =>
      rw [toList_rankTexts_cons, toList_rankTexts_cons] at hchars
      have hne : ∀ n m rest,
          '[' :: List.replicate n ',' ≠ ('[' :: List.replicate m ',') ++ ']' :: rest := by
        intro n m rest heq
        have hmem : ']' ∈ '[' :: List.replicate n ',' := heq ▸ by simp
        simp at hmem
      obtain ⟨hbrackets, hrest⟩ := append_cons_inj_of_ne hchars (hne _ _) (hne _ _)
      obtain ⟨hrank, hothers⟩ := List.forall_mem_cons.mp hranks
      obtain ⟨hrank', hothers'⟩ := List.forall_mem_cons.mp hranks'
      rw [eq_of_replicate_eq hrank hrank' (List.cons.inj hbrackets).2,
        ih hothers hothers' (String.toList_inj.mp hrest)]

/-- The brackets are written from the inside out, and so from the outside in only
if the ranks read the same both ways. -/
theorem text_arrays_outermost_first_iff (element : TypeRef) {ranks : List UInt8}
    (h : ∀ r ∈ ranks, 1 ≤ r) :
    (arrays element ranks).text = element.text ++ rankTexts ranks ∧
      ((arrays element ranks).text = element.text ++ rankTexts ranks.reverse ↔
        ranks.reverse = ranks) := by
  refine ⟨text_arrays element ranks, ?_⟩
  rw [text_arrays, String.append_right_inj]
  constructor
  · intro htexts
    exact (rankTexts_inj h (fun r hr => h r (List.mem_reverse.mp hr)) htexts).symm
  · intro hreverse
    rw [hreverse]

/-- Ranks that read the same both ways are written in either order. -/
theorem text_arrays_cube :
    (∀ r ∈ ([2, 1, 2] : List UInt8), 1 ≤ r) ∧
      (arrays (.named "int" []) [2, 1, 2]).text =
        (named "int" []).text ++ rankTexts [2, 1, 2].reverse := by
  have hranks : ∀ r ∈ ([2, 1, 2] : List UInt8), 1 ≤ r := by simp
  exact ⟨hranks, (text_arrays_outermost_first_iff (.named "int" []) hranks).2.mpr rfl⟩

/-- An array of rank one whose elements are arrays of rank two is not written from
the outside in. -/
theorem text_arrays_planes :
    (arrays (.named "int" []) [2, 1]).text = "int[,][]" ∧
      (named "int" []).text ++ rankTexts [2, 1].reverse = "int[][,]" ∧
      (arrays (.named "int" []) [2, 1]).text ≠
        (named "int" []).text ++ rankTexts [2, 1].reverse := by
  decide

end TypeRef

end AccessorGen
