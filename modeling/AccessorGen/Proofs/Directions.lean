import AccessorGen.Proofs.Nullable

set_option autoImplicit false

/-!
# The two directions of a conversion

The conversions of the language join two types both ways or not at all, so a way
without a way back is an operator's.  Between types that are neither nullable
nor predefined, the language knows equality and base types alone: the way up a
chain of base types is implicit, the way down explicit, and a type that is both
above and below another is reached implicitly.
-/

namespace AccessorGen

/-! ## Ways without a way back -/

namespace Universe

/-- What joins two types, if each has one nullable mark at most: the operators
between the types without their marks, and the language. -/
theorem exist_conversions_eq_bare (u : Universe) {s t : TypeRef} (hs : s.bare.isNullable = false)
    (ht : t.bare.isNullable = false) :
    (u.conversions s t).exist = ((u.byOperators s.bare t.bare).exist ||
      (u.builtIn (u.canonical s) (u.canonical t)).exist) := by
  rw [exist_conversions, byOperators, u.canonical_bare hs, u.canonical_bare ht]

/-- The language joins types both ways or not at all.  Where there is a way and
no way back, an operator is declared between the types without their marks; and
where no operator is declared between these, there is a way exactly if there is
one back. -/
theorem one_way_only_by_operators (u : Universe) {s t : TypeRef}
    (hs : s.bare.isNullable = false) (ht : t.bare.isNullable = false) :
    (u.builtIn (u.canonical s) (u.canonical t)).exist =
      (u.builtIn (u.canonical t) (u.canonical s)).exist ∧
    ((u.conversions s t).exist = true → (u.conversions t s).exist = false →
      (u.byOperators s.bare t.bare).exist = true) ∧
    ((u.byOperators s.bare t.bare).exist = false → (u.byOperators t.bare s.bare).exist = false →
      ((u.conversions s t).exist = true ↔ (u.conversions t s).exist = true)) := by
  have hcomm := u.exist_builtIn_comm (u.canonical s) (u.canonical t)
  rw [u.exist_conversions_eq_bare hs ht, u.exist_conversions_eq_bare ht hs, hcomm]
  refine ⟨rfl, ?_, ?_⟩
  · intro hway hback
    rw [(Bool.or_eq_false_iff.mp hback).2, Bool.or_false] at hway
    exact hway
  · intro hforward hbackward
    rw [hforward, hbackward]

end Universe

/-- In the harbour a number that may be missing becomes a length, and a length
never such a number: an operator makes lengths from numbers. -/
theorem Harbour.byOperators_double_meters :
    (snapshot.toUniverse.conversions (.nullable (.named "double" []))
        (.named "Geo.Meters" [])).exist = true ∧
      (snapshot.toUniverse.conversions (.named "Geo.Meters" [])
        (.nullable (.named "double" []))).exist = false ∧
      (snapshot.toUniverse.byOperators (.named "double" []) (.named "Geo.Meters" [])).exist =
        true := by
  have hway : (snapshot.toUniverse.conversions (.nullable (.named "double" []))
      (.named "Geo.Meters" [])).exist = true := by
    rw [Universe.exist_conversions_eq_bare _ rfl rfl]
    exact Bool.or_eq_true_iff.mpr (.inl rfl)
  have hdouble : snapshot.toUniverse.canonical (.named "double" []) ≠ .ofPredefined .object := by
    decide +kernel
  have hback : snapshot.toUniverse.conversions (.named "Geo.Meters" [])
        (.nullable (.named "double" [])) =
      snapshot.toUniverse.conversions (.named "Geo.Meters" []) (.named "double" []) :=
    Universe.conversions_to_optional_eq _ rfl rfl fun hobjects => hdouble hobjects.2
  have hnone := exist_conversions_meters_double
  rw [← hback] at hnone
  exact ⟨hway, hnone, (snapshot.toUniverse.one_way_only_by_operators rfl rfl).2.1 hway hnone⟩

/-! ## Ordinary types -/

namespace TypeRef

/-- The type is neither nullable nor predefined. -/
structure IsOrdinary (t : TypeRef) : Prop where
  notNullable : t.isNullable = false
  notPredefined : t.predefined? = none

theorem IsOrdinary.isObject_eq_false {t : TypeRef} (h : t.IsOrdinary) : t.isObject = false := by
  rw [isObject, h.notPredefined]
  rfl

theorem IsOrdinary.isArithmetic_eq_false {t : TypeRef} (h : t.IsOrdinary) :
    t.isArithmetic = false := by
  rw [isArithmetic, h.notPredefined]
  rfl

end TypeRef

namespace Universe

/-- The operator is declared in one of the two types and leads from the first to
the second. -/
def Joins (u : Universe) (a b : TypeRef) (op : ConversionOperator) : Prop :=
  ∃ d, (u.find? (u.canonical a) = some d ∨ u.find? (u.canonical b) = some d) ∧
    op ∈ d.operators ∧ u.canonical op.parameter = u.canonical a ∧
      u.canonical op.returns = u.canonical b

theorem has_byOperators_iff_exists_joins (u : Universe) (a b : TypeRef) (k : OperatorKind) :
    (u.byOperators a b).has k = true ↔ ∃ op, u.Joins a b op ∧ op.kind = k := by
  rw [has_byOperators_iff]
  constructor
  · rintro ⟨d, hd, op, hop, hkind, hsides⟩
    exact ⟨op, ⟨d, hd, hop, hsides⟩, hkind⟩
  · rintro ⟨op, ⟨d, hd, hop, hsides⟩, hkind⟩
    exact ⟨d, hd, op, hop, hkind, hsides⟩

theorem exist_byOperators_eq_false_iff (u : Universe) (a b : TypeRef) :
    (u.byOperators a b).exist = false ↔ ∀ op, ¬ u.Joins a b op := by
  rw [Bool.eq_false_iff, ne_eq, Conversions.exist_iff_exists_has, ← not_exists]
  simp only [has_byOperators_iff_exists_joins]
  refine not_congr ⟨?_, ?_⟩
  · rintro ⟨k, op, hop, -⟩
    exact ⟨op, hop⟩
  · rintro ⟨op, hop⟩
    exact ⟨op.kind, op, hop, rfl⟩

theorem implicit_alongBases (u : Universe) (a b : TypeRef) :
    (u.alongBases a b).implicit = u.hasAncestor a b := by
  unfold alongBases
  cases u.hasAncestor a b <;> cases u.hasAncestor b a <;> rfl

theorem explicit_alongBases (u : Universe) (a b : TypeRef) :
    (u.alongBases a b).explicit = (!u.hasAncestor a b && u.hasAncestor b a) := by
  unfold alongBases
  cases u.hasAncestor a b <;> cases u.hasAncestor b a <;> rfl

/-- Between ordinary types the language knows nothing but equality and base
types: no test for `object`, numbers or enums applies. -/
theorem unwrapped_of_isOrdinary (u : Universe) {a b : TypeRef} (ha : a.IsOrdinary)
    (hb : b.IsOrdinary) :
    u.unwrapped a b = if a = b then .onlyImplicit else u.alongBases a b := by
  have harithmetic : arithmetic? a b = none := by
    rw [arithmetic?, ha.notPredefined]
  have henum : u.isEnumAndNumber a b = false := by
    rw [isEnumAndNumber, ha.isArithmetic_eq_false, hb.isArithmetic_eq_false, Bool.and_false,
      Bool.false_and, Bool.or_false]
  rw [unwrapped, plain, harithmetic, henum, ha.isObject_eq_false, hb.isObject_eq_false]
  simp

section Ordinary

variable (u : Universe) {a b : TypeRef} (ha : (u.canonical a).IsOrdinary)
  (hb : (u.canonical b).IsOrdinary)
include ha hb

theorem conversions_of_isOrdinary :
    u.conversions a b = (u.byOperators a b).union
      (if u.canonical a = u.canonical b then .onlyImplicit
        else u.alongBases (u.canonical a) (u.canonical b)) := by
  have ha' := (u.isNullable_canonical a).symm.trans ha.notNullable
  have hb' := (u.isNullable_canonical b).symm.trans hb.notNullable
  rw [u.conversions_of_not_nullable ha' hb', u.unwrapped_of_isOrdinary ha hb]

theorem implicit_conversions_iff :
    (u.conversions a b).implicit = true ↔
      (u.byOperators a b).implicit = true ∨ u.canonical a = u.canonical b ∨
        u.derivesFrom a b = true := by
  rw [u.conversions_of_isOrdinary ha hb, Conversions.union, Bool.or_eq_true, derivesFrom]
  by_cases hsame : u.canonical a = u.canonical b
  · simp [hsame, Conversions.onlyImplicit]
  · simp [hsame, implicit_alongBases]

theorem explicit_conversions_iff :
    (u.conversions a b).explicit = true ↔
      (u.byOperators a b).explicit = true ∨
        (u.canonical a ≠ u.canonical b ∧ u.derivesFrom a b = false ∧
          u.derivesFrom b a = true) := by
  rw [u.conversions_of_isOrdinary ha hb, Conversions.union, Bool.or_eq_true, derivesFrom,
    derivesFrom]
  by_cases hsame : u.canonical a = u.canonical b
  · simp [hsame, Conversions.onlyImplicit]
  · simp [hsame, explicit_alongBases]

theorem exist_conversions_eq_false_iff :
    (u.conversions a b).exist = false ↔
      (u.byOperators a b).exist = false ∧ u.canonical a ≠ u.canonical b ∧
        u.derivesFrom a b = false ∧ u.derivesFrom b a = false := by
  rw [u.conversions_of_isOrdinary ha hb, Conversions.exist_union, Bool.or_eq_false_iff,
    derivesFrom, derivesFrom]
  by_cases hsame : u.canonical a = u.canonical b
  · simp [hsame]
  · simp [hsame, exist_alongBases]

/-- The way up a chain of base types is implicit. -/
theorem implicit_conversions_of_transGen
    (hup : Relation.TransGen u.IsParent (u.canonical a) (u.canonical b)) :
    (u.conversions a b).implicit = true := by
  refine (u.implicit_conversions_iff ha hb).mpr (.inr (.inr ?_))
  rw [derivesFrom, hasAncestor_iff]
  exact hup

/-- The way down a chain of base types is explicit, unless it leads up as well. -/
theorem explicit_conversions_of_transGen
    (hdown : Relation.TransGen u.IsParent (u.canonical b) (u.canonical a))
    (hup : ¬ Relation.TransGen u.IsParent (u.canonical a) (u.canonical b)) :
    (u.conversions a b).explicit = true := by
  refine (u.explicit_conversions_iff ha hb).mpr (.inr ⟨?_, ?_, ?_⟩)
  · -- For one type under two names, the way down would be a way up.
    intro hsame
    rw [hsame] at hup hdown
    exact hup hdown
  · rw [derivesFrom, Bool.eq_false_iff, ne_eq, hasAncestor_iff]
    exact hup
  · rw [derivesFrom, hasAncestor_iff]
    exact hdown

theorem exists_relate_eq_error_iff_of_isOrdinary :
    (∃ e, u.relate a b = .error e) ↔
      u.canonical a ≠ u.canonical b ∧ u.derivesFrom a b = false ∧ u.derivesFrom b a = false ∧
        (u.byOperators a b).exist = false ∧ (u.byOperators b a).exist = false := by
  rw [exists_relate_eq_error_iff, u.exist_conversions_eq_false_iff ha hb,
    u.exist_conversions_eq_false_iff hb ha]
  constructor
  · intro hnone
    obtain ⟨⟨hforward, hne, hup, hdown⟩, hbackward, -, -, -⟩ := hnone
    exact ⟨hne, hup, hdown, hforward, hbackward⟩
  · intro hnone
    obtain ⟨hne, hup, hdown, hforward, hbackward⟩ := hnone
    exact ⟨⟨hforward, hne, hup, hdown⟩, hbackward, hne.symm, hdown, hup⟩

end Ordinary

/-- Between types whose canonical forms are ordinary, circles of base types
included: there is an implicit conversion exactly if an operator provides it, or
the types are one, or the first derives from the second; and an explicit one
exactly if an operator provides it, or if the types differ and only the second
derives from the first.  So the way up any chain of base types is implicit, and
the way down explicit unless it leads up as well.  An operator provides a
conversion exactly if one of its kind joins the types; and the types are not
related exactly if they differ, neither derives from the other, and no operator
joins them either way. -/
theorem conversions_classified (u : Universe) {a b : TypeRef}
    (ha : (u.canonical a).IsOrdinary) (hb : (u.canonical b).IsOrdinary) :
    ((u.conversions a b).implicit = true ↔
      (u.byOperators a b).implicit = true ∨ u.canonical a = u.canonical b ∨
        u.derivesFrom a b = true) ∧
    ((u.conversions a b).explicit = true ↔
      (u.byOperators a b).explicit = true ∨
        (u.canonical a ≠ u.canonical b ∧ u.derivesFrom a b = false ∧
          u.derivesFrom b a = true)) ∧
    (Relation.TransGen u.IsParent (u.canonical a) (u.canonical b) →
      (u.conversions a b).implicit = true ∧
      (¬ Relation.TransGen u.IsParent (u.canonical b) (u.canonical a) →
        (u.conversions b a).explicit = true)) ∧
    ((∃ e, u.relate a b = .error e) ↔
      u.canonical a ≠ u.canonical b ∧ u.derivesFrom a b = false ∧ u.derivesFrom b a = false ∧
        (u.byOperators a b).exist = false ∧ (u.byOperators b a).exist = false) ∧
    (∀ k, (u.byOperators a b).has k = true ↔ ∃ op, u.Joins a b op ∧ op.kind = k) ∧
    ((∃ e, u.relate a b = .error e) ↔
      u.canonical a ≠ u.canonical b ∧ u.derivesFrom a b = false ∧ u.derivesFrom b a = false ∧
        ∀ op, ¬ u.Joins a b op ∧ ¬ u.Joins b a op) := by
  have herror := u.exists_relate_eq_error_iff_of_isOrdinary ha hb
  refine ⟨u.implicit_conversions_iff ha hb, u.explicit_conversions_iff ha hb, ?_, herror,
    u.has_byOperators_iff_exists_joins a b, ?_⟩
  · intro hup
    exact ⟨u.implicit_conversions_of_transGen ha hb hup,
      u.explicit_conversions_of_transGen hb ha hup⟩
  · rw [herror, exist_byOperators_eq_false_iff, exist_byOperators_eq_false_iff, forall_and]

end Universe

/-! ## A chain of base types -/

namespace Kennel

def puppy : TypeRef := .named "Puppy" []

def animal : TypeRef := .named "Shop.Animal" []

def basket : TypeRef := .named "Shop.Basket" []

/-- A basket is taken for the puppy in it. -/
def inside : ConversionOperator := ⟨.explicit, basket, puppy⟩

/-- A puppy is a dog and a dog an animal; a basket is neither, although it
declares an operator. -/
def types : Universe :=
  ⟨[⟨⟨some "Shop", "Puppy", .classType, []⟩, [.named "Dog" []], none, []⟩,
    ⟨⟨some "Shop", "Dog", .classType, []⟩, [animal], none, []⟩,
    ⟨⟨some "Shop", "Animal", .classType, []⟩, [], none, []⟩,
    ⟨⟨some "Shop", "Basket", .classType, []⟩, [], none, [inside]⟩]⟩

/-- From a puppy to an animal the way is implicit and back it is explicit.  An
operator leads from a basket to a puppy; an animal and a basket are not
related. -/
theorem conversions_puppy :
    (types.canonical puppy).IsOrdinary ∧ (types.canonical animal).IsOrdinary ∧
      (types.canonical basket).IsOrdinary ∧ (types.conversions puppy animal).implicit = true ∧
      (types.conversions animal puppy).explicit = true ∧ types.Joins basket puppy inside ∧
      (types.conversions basket puppy).explicit = true ∧
      ∃ e, types.relate animal basket = .error e := by
  have hpuppy : (types.canonical puppy).IsOrdinary := ⟨by rfl, by rfl⟩
  have hanimal : (types.canonical animal).IsOrdinary := ⟨by rfl, by rfl⟩
  have hbasket : (types.canonical basket).IsOrdinary := ⟨by rfl, by rfl⟩
  have hroot : types.parents (types.canonical animal) = [] := by rfl
  have hother : types.parents (types.canonical basket) = [] := by rfl
  have hdog : types.IsParent (types.canonical puppy) (.named "Shop.Dog" []) :=
    List.mem_singleton.mpr rfl
  have hup : Relation.TransGen types.IsParent (types.canonical puppy) (types.canonical animal) :=
    .head hdog (.single (List.mem_singleton.mpr rfl))
  have hdown : types.derivesFrom animal puppy = false := Universe.hasAncestor_eq_false hroot _
  have hinside : types.Joins basket puppy inside :=
    ⟨_, .inl rfl, List.mem_singleton.mpr rfl, rfl, rfl⟩
  obtain ⟨-, -, hchain, -⟩ := types.conversions_classified hpuppy hanimal
  obtain ⟨-, hexplicit, -, -, hoperators, -⟩ := types.conversions_classified hbasket hpuppy
  obtain ⟨-, -, -, hrelate, -⟩ := types.conversions_classified hanimal hbasket
  refine ⟨hpuppy, hanimal, hbasket, (hchain hup).1, (hchain hup).2 ?_, hinside,
    hexplicit.mpr (.inl ((hoperators .explicit).mpr ⟨inside, hinside, rfl⟩)), hrelate.mpr ?_⟩
  · rw [← Universe.hasAncestor_iff]
    exact Bool.eq_false_iff.mp hdown
  · exact ⟨by decide +kernel, Universe.hasAncestor_eq_false hroot _,
      Universe.hasAncestor_eq_false hother _, by rfl, by rfl⟩

end Kennel

end AccessorGen
