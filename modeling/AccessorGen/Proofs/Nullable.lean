import AccessorGen.Proofs.Casts

set_option autoImplicit false

/-!
# Nullable types

What converts between two types decides what converts between their nullable
forms.  A mark on both sides changes nothing, a mark on the target alone changes
nothing but the way from `object` to `object?`, and a mark on the source alone
leaves of any conversion an explicit one, unless the target is `object`.

Operators are looked for between the types without their marks.  This reaches
the nullable forms of the types an operator is declared for, and it passes over
an operator that is declared for a nullable type itself.
-/

namespace AccessorGen

/-! ## Nullable marks -/

namespace TypeRef

/-- The reference is to a nullable type. -/
def isNullable : TypeRef → Bool
  | .nullable _ => true
  | _ => false

/-- The reference without its nullable mark. -/
def bare : TypeRef → TypeRef
  | .nullable inner => inner
  | t => t

theorem ne_nullable {t : TypeRef} (h : t.isNullable = false) (inner : TypeRef) :
    t ≠ .nullable inner := by
  intro heq
  rw [heq] at h
  simp [isNullable] at h

theorem optional_of_isNullable_eq_false {t : TypeRef} (h : t.isNullable = false) :
    t.optional = .nullable t := by
  cases t with
  | named path args => rfl
  | array element rank => rfl
  | nullable inner => exact absurd rfl (ne_nullable h inner)

theorem bare_of_isNullable_eq_false {t : TypeRef} (h : t.isNullable = false) : t.bare = t := by
  cases t with
  | named path args => rfl
  | array element rank => rfl
  | nullable inner => exact absurd rfl (ne_nullable h inner)

@[simp] theorem isNullable_optional (t : TypeRef) : t.optional.isNullable = true := by
  cases t <;> rfl

@[simp] theorem isObject_nullable (t : TypeRef) : (nullable t).isObject = false := rfl

@[simp] theorem predefined?_optional (t : TypeRef) : t.optional.predefined? = none := by
  cases t <;> rfl

/-- A path in normal spelling names a predefined type by its keyword. -/
theorem ofName?_normalPath_eq_some_iff {path : String} {p : Predefined} :
    Predefined.ofName? (normalPath path) = some p ↔ normalPath path = p.keyword := by
  constructor
  · intro h
    unfold normalPath at h ⊢
    simp only at h ⊢
    split at h
    · rename_i q hq
      rw [Predefined.ofName?_keyword] at h
      rw [Option.some.inj h]
    · rename_i hnone
      rw [hnone] at h
      simp at h
  · intro h
    rw [h, Predefined.ofName?_keyword]

end TypeRef

namespace Conversions

theorem has_union (c d : Conversions) (k : OperatorKind) :
    (c.union d).has k = (c.has k || d.has k) := by
  cases k <;> rfl

theorem narrowed_union (c d : Conversions) :
    (c.union d).narrowed = c.narrowed.union d.narrowed := by
  simp only [narrowed, exist_union]
  cases c.exist <;> cases d.exist <;> rfl

theorem has_narrowed_iff {c : Conversions} {k : OperatorKind} :
    c.narrowed.has k = true ↔ k = .explicit ∧ c.exist = true := by
  unfold narrowed
  cases c.exist <;> cases k <;> simp [has, onlyExplicit, none]

theorem exist_iff_exists_has {c : Conversions} : c.exist = true ↔ ∃ k, c.has k = true := by
  rw [exist, Bool.or_eq_true]
  constructor
  · rintro (h | h)
    · exact ⟨.implicit, h⟩
    · exact ⟨.explicit, h⟩
  · rintro ⟨k, hk⟩
    cases k with
    | «implicit» => exact .inl hk
    | «explicit» => exact .inr hk

end Conversions

namespace Universe

@[simp] theorem isNullable_canonical (u : Universe) (t : TypeRef) :
    (u.canonical t).isNullable = t.isNullable := by
  cases t with
  | named path args => simp only [canonical, TypeRef.generic, TypeRef.isNullable]
  | array element rank => simp only [canonical, TypeRef.arrayOf, TypeRef.isNullable]
  | nullable inner => exact TypeRef.isNullable_optional _

theorem canonical_optional (u : Universe) (t : TypeRef) :
    u.canonical t.optional = (u.canonical t).optional := by
  cases t with
  | named path args => rfl
  | array element rank => rfl
  | nullable inner => exact (TypeRef.optional_optional _).symm

/-- A mark comes off before a type is brought into canonical form or
afterwards, if there is only one. -/
theorem canonical_bare (u : Universe) {t : TypeRef} (h : t.bare.isNullable = false) :
    u.canonical t.bare = (u.canonical t).bare := by
  cases t with
  | named path args => rfl
  | array element rank => rfl
  | nullable inner =>
    have hinner : (u.canonical inner).isNullable = false := (u.isNullable_canonical inner).trans h
    rw [canonical, TypeRef.optional_of_isNullable_eq_false hinner]
    rfl

/-- Canonical forms name each predefined type in one way. -/
theorem predefined?_canonical_eq_some_iff {u : Universe} {t : TypeRef} {p : Predefined} :
    (u.canonical t).predefined? = some p ↔ u.canonical t = .ofPredefined p := by
  constructor
  · intro h
    cases t with
    | named path args =>
      cases args with
      | nil =>
        have hpath := TypeRef.ofName?_normalPath_eq_some_iff.mp h
        simp only [canonical, canonicals, TypeRef.generic, TypeRef.ofPredefined] at hpath ⊢
        rw [hpath]
      | cons arg args => simp [canonical, canonicals, TypeRef.generic, TypeRef.predefined?] at h
    | array element rank => simp [canonical, TypeRef.arrayOf, TypeRef.predefined?] at h
    | nullable inner => simp [canonical] at h
  · intro h
    rw [h, TypeRef.predefined?_ofPredefined]

theorem isObject_canonical_iff {u : Universe} {t : TypeRef} :
    (u.canonical t).isObject = true ↔ u.canonical t = .ofPredefined .object := by
  rw [TypeRef.isObject, beq_iff_eq, predefined?_canonical_eq_some_iff]

/-! ## Operators and conversions of the language -/

/-- Operators are looked for between the types without their marks. -/
theorem lifted_eq_bare (u : Universe) (a b : TypeRef) :
    u.lifted a b =
      if a.isNullable && !b.isNullable then (u.declared a.bare b.bare).narrowed
      else u.declared a.bare b.bare := by
  cases a <;> cases b <;> rfl

theorem exist_lifted (u : Universe) (a b : TypeRef) :
    (u.lifted a b).exist = (u.declared a.bare b.bare).exist := by
  rw [lifted_eq_bare]
  split
  · exact Conversions.exist_narrowed _
  · rfl

theorem builtIn_self (u : Universe) (t : TypeRef) : u.builtIn t t = .onlyImplicit := by
  simp [builtIn]

theorem builtIn_of_not_nullable (u : Universe) {a b : TypeRef} (ha : a.isNullable = false)
    (hb : b.isNullable = false) : u.builtIn a b = u.unwrapped a b := by
  unfold builtIn unwrapped
  refine ite_congr rfl (fun _ => rfl) fun _ => ite_congr rfl (fun _ => rfl) fun _ => ?_
  split
  · exact absurd rfl (TypeRef.ne_nullable ha _)
  · exact absurd rfl (TypeRef.ne_nullable hb _)
  · exact absurd rfl (TypeRef.ne_nullable ha _)
  · rfl

theorem builtIn_nullable_nullable (u : Universe) (a b : TypeRef) :
    u.builtIn (.nullable a) (.nullable b) = u.unwrapped a b := by
  by_cases hab : a = b
  · rw [hab, builtIn_self, unwrapped, if_pos (.inl rfl)]
  · simp [builtIn, hab]

/-- Before a mark is taken off the target, the source is tested for `object`. -/
theorem builtIn_to_nullable (u : Universe) {a : TypeRef} (b : TypeRef)
    (ha : a.isNullable = false) :
    u.builtIn a (.nullable b) = if a.isObject then .onlyExplicit else u.unwrapped a b := by
  simp only [builtIn, TypeRef.ne_nullable ha b, TypeRef.isObject_nullable, or_self,
    Bool.false_eq_true, if_false]
  cases a with
  | named path args => rfl
  | array element rank => rfl
  | nullable inner => exact absurd rfl (TypeRef.ne_nullable ha inner)

/-- Before a mark is taken off the source, the target is tested for `object`. -/
theorem builtIn_from_nullable (u : Universe) (a : TypeRef) {b : TypeRef}
    (hb : b.isNullable = false) :
    u.builtIn (.nullable a) b =
      if b.isObject then .onlyImplicit else (u.unwrapped a b).narrowed := by
  simp only [builtIn, (TypeRef.ne_nullable hb a).symm, TypeRef.isObject_nullable, false_or,
    Bool.false_eq_true, if_false]
  cases b with
  | named path args => rfl
  | array element rank => rfl
  | nullable inner => exact absurd rfl (TypeRef.ne_nullable hb inner)

theorem exist_conversions (u : Universe) (source target : TypeRef) :
    (u.conversions source target).exist =
      ((u.declared (u.canonical source).bare (u.canonical target).bare).exist ||
        (u.builtIn (u.canonical source) (u.canonical target)).exist) := by
  rw [conversions, Conversions.exist_union, exist_lifted]

/-! ## Conversions between nullable forms -/

section Forms

variable (u : Universe) {a b : TypeRef} (ha : a.isNullable = false) (hb : b.isNullable = false)
include ha hb

theorem conversions_of_not_nullable :
    u.conversions a b =
      (u.byOperators a b).union (u.unwrapped (u.canonical a) (u.canonical b)) := by
  have ha' := (u.isNullable_canonical a).trans ha
  have hb' := (u.isNullable_canonical b).trans hb
  rw [conversions, lifted_eq_bare, ha', Bool.false_and, if_neg Bool.false_ne_true,
    TypeRef.bare_of_isNullable_eq_false ha', TypeRef.bare_of_isNullable_eq_false hb',
    u.builtIn_of_not_nullable ha' hb']
  rfl

theorem conversions_optional_optional :
    u.conversions a.optional b.optional = u.conversions a b := by
  have ha' := (u.isNullable_canonical a).trans ha
  have hb' := (u.isNullable_canonical b).trans hb
  rw [u.conversions_of_not_nullable ha hb, conversions, canonical_optional, canonical_optional,
    TypeRef.optional_of_isNullable_eq_false ha', TypeRef.optional_of_isNullable_eq_false hb',
    builtIn_nullable_nullable]
  rfl

theorem conversions_to_optional :
    u.conversions a b.optional = (u.byOperators a b).union
      (if (u.canonical a).isObject then .onlyExplicit
        else u.unwrapped (u.canonical a) (u.canonical b)) := by
  have ha' := (u.isNullable_canonical a).trans ha
  have hb' := (u.isNullable_canonical b).trans hb
  rw [conversions, canonical_optional, TypeRef.optional_of_isNullable_eq_false hb',
    u.builtIn_to_nullable _ ha', lifted_eq_bare, ha', Bool.false_and,
    if_neg Bool.false_ne_true, TypeRef.bare_of_isNullable_eq_false ha']
  rfl

/-- To the nullable form of a type lead the conversions that lead to the type,
unless both types are `object`. -/
theorem conversions_to_optional_eq
    (hobjects : ¬ (u.canonical a = .ofPredefined .object ∧
      u.canonical b = .ofPredefined .object)) :
    u.conversions a b.optional = u.conversions a b := by
  rw [u.conversions_to_optional ha hb, u.conversions_of_not_nullable ha hb]
  split
  · rename_i hsource
    -- The way from `object` to another type is explicit with the mark or without.
    have htarget : (u.canonical b).isObject = false := by
      rw [Bool.eq_false_iff]
      intro htarget
      exact hobjects ⟨isObject_canonical_iff.mp hsource, isObject_canonical_iff.mp htarget⟩
    have hne : u.canonical a ≠ u.canonical b := by
      intro heq
      rw [heq, htarget] at hsource
      exact Bool.false_ne_true hsource
    rw [unwrapped, if_neg (by simp [hne, htarget]), if_pos hsource]
  · rfl

theorem conversions_from_optional :
    u.conversions a.optional b = (u.byOperators a b).narrowed.union
      (if (u.canonical b).isObject then .onlyImplicit
        else (u.unwrapped (u.canonical a) (u.canonical b)).narrowed) := by
  have ha' := (u.isNullable_canonical a).trans ha
  have hb' := (u.isNullable_canonical b).trans hb
  rw [conversions, canonical_optional, TypeRef.optional_of_isNullable_eq_false ha',
    u.builtIn_from_nullable _ hb', lifted_eq_bare, hb', TypeRef.bare_of_isNullable_eq_false hb']
  rfl

/-- From the nullable form of a type every conversion is explicit, unless the
target is `object`. -/
theorem conversions_from_optional_eq (htarget : u.canonical b ≠ .ofPredefined .object) :
    u.conversions a.optional b = (u.conversions a b).narrowed := by
  have hobject : (u.canonical b).isObject = false := by
    rw [Bool.eq_false_iff]
    exact fun h => htarget (isObject_canonical_iff.mp h)
  rw [u.conversions_from_optional ha hb, hobject, if_neg Bool.false_ne_true,
    u.conversions_of_not_nullable ha hb, Conversions.narrowed_union]

end Forms

/-- Operators between two types are declared in one of them. -/
theorem has_byOperators_iff {u : Universe} {source target : TypeRef} {k : OperatorKind} :
    (u.byOperators source target).has k = true ↔
      ∃ d, (u.find? (u.canonical source) = some d ∨ u.find? (u.canonical target) = some d) ∧
        ∃ op ∈ d.operators, op.kind = k ∧ u.canonical op.parameter = u.canonical source ∧
          u.canonical op.returns = u.canonical target := by
  rw [byOperators, declared, Conversions.has_ofOperators_iff]
  simp only [mem_operators_iff]
  constructor
  · intro h
    obtain ⟨op, ⟨⟨d, hd, hop⟩, hsides⟩, hkind⟩ := h
    exact ⟨d, hd, op, hop, hkind, hsides⟩
  · intro h
    obtain ⟨d, hd, op, hop, hkind, hsides⟩ := h
    exact ⟨op, ⟨⟨d, hd, hop⟩, hsides⟩, hkind⟩

/-- Between two types that are `object`, the way is implicit; to the nullable
form of the second it is explicit, and implicit only by an operator. -/
theorem conversions_object (u : Universe) {a b : TypeRef} (ha : a.isNullable = false)
    (hb : b.isNullable = false) (hsource : u.canonical a = .ofPredefined .object)
    (htarget : u.canonical b = .ofPredefined .object) :
    (u.conversions a b).implicit = true ∧ (u.conversions a b.optional).explicit = true ∧
      ((u.conversions a b.optional).implicit = true ↔
        ∃ d, u.find? (.ofPredefined .object) = some d ∧
          ∃ op ∈ d.operators, op.kind = .implicit ∧
            u.canonical op.parameter = .ofPredefined .object ∧
            u.canonical op.returns = .ofPredefined .object) := by
  have hto := u.conversions_to_optional ha hb
  rw [if_pos (isObject_canonical_iff.mpr hsource)] at hto
  have himplicit : (u.conversions a b.optional).implicit = (u.byOperators a b).has .implicit := by
    rw [hto]
    exact Bool.or_false _
  refine ⟨?_, ?_, ?_⟩
  · rw [u.conversions_of_not_nullable ha hb, unwrapped,
      if_pos (.inl (hsource.trans htarget.symm))]
    exact Bool.or_true _
  · rw [hto]
    exact Bool.or_true _
  · rw [himplicit, has_byOperators_iff, hsource, htarget]
    simp only [or_self]

/-- Between types that are not nullable themselves: marks on both sides leave
the conversions as they are; so does a mark on the target, unless both types are
`object`; and a mark on the source makes every conversion explicit, except to
`object`, where there is an implicit one. -/
theorem conversions_nullable_forms (u : Universe) {a b : TypeRef} (ha : a.isNullable = false)
    (hb : b.isNullable = false) :
    u.conversions a.optional b.optional = u.conversions a b ∧
    (¬ (u.canonical a = .ofPredefined .object ∧ u.canonical b = .ofPredefined .object) →
      u.conversions a b.optional = u.conversions a b) ∧
    (u.canonical a = .ofPredefined .object → u.canonical b = .ofPredefined .object →
      (u.conversions a b).implicit = true ∧ (u.conversions a b.optional).explicit = true ∧
      ((u.conversions a b.optional).implicit = true ↔
        ∃ d, u.find? (.ofPredefined .object) = some d ∧
          ∃ op ∈ d.operators, op.kind = .implicit ∧
            u.canonical op.parameter = .ofPredefined .object ∧
            u.canonical op.returns = .ofPredefined .object)) ∧
    (u.canonical b ≠ .ofPredefined .object →
      u.conversions a.optional b =
        if (u.conversions a b).exist then .onlyExplicit else .none) ∧
    (u.canonical b = .ofPredefined .object → (u.conversions a.optional b).implicit = true) := by
  refine ⟨u.conversions_optional_optional ha hb, u.conversions_to_optional_eq ha hb,
    u.conversions_object ha hb, u.conversions_from_optional_eq ha hb, ?_⟩
  intro htarget
  rw [u.conversions_from_optional ha hb, if_pos (isObject_canonical_iff.mpr htarget)]
  exact Bool.or_true _

/-- A type of the name `object` with an operator from itself to itself. -/
def ownObject : Universe :=
  ⟨[⟨⟨none, "object", .classType, []⟩, [], none,
    [⟨.implicit, .ofPredefined .object, .ofPredefined .object⟩]⟩]⟩

/-- Here the operator makes the way to `object?` implicit as well as explicit.
The way from there is implicit anyhow, and numbers follow the rule. -/
theorem conversions_ownObject :
    (ownObject.conversions (.ofPredefined .object) (.nullable (.ofPredefined .object))).explicit =
        true ∧
      (ownObject.conversions (.ofPredefined .object) (.nullable (.ofPredefined .object))).implicit =
        true ∧
      (ownObject.conversions (.nullable (.ofPredefined .object)) (.ofPredefined .object)).implicit =
        true ∧
      ownObject.conversions (.nullable (.ofPredefined .int)) (.nullable (.ofPredefined .long)) =
        .onlyImplicit ∧
      ownObject.conversions (.ofPredefined .int) (.nullable (.ofPredefined .long)) =
        .onlyImplicit ∧
      ownObject.conversions (.nullable (.ofPredefined .int)) (.ofPredefined .long) =
        .onlyExplicit := by
  have hobject : ownObject.canonical (.ofPredefined .object) = .ofPredefined .object := by rfl
  have hlong : ownObject.canonical (.ofPredefined .long) ≠ .ofPredefined .object := by
    decide +kernel
  have hwider : ownObject.conversions (.ofPredefined .int) (.ofPredefined .long) =
      .onlyImplicit := by rfl
  obtain ⟨-, -, hobjects, -, hfromObject⟩ := ownObject.conversions_nullable_forms
    (a := .ofPredefined .object) (b := .ofPredefined .object) rfl rfl
  obtain ⟨-, hexplicit, himplicit⟩ := hobjects hobject hobject
  obtain ⟨hboth, hto, -, hfrom, -⟩ := ownObject.conversions_nullable_forms
    (a := .ofPredefined .int) (b := .ofPredefined .long) rfl rfl
  refine ⟨hexplicit, himplicit.mpr ?_, hfromObject hobject, hboth.trans hwider, ?_, ?_⟩
  · exact ⟨_, rfl, _, List.mem_cons_self, rfl, hobject, hobject⟩
  · exact (hto fun h => hlong h.2).trans hwider
  · rw [hwider] at hfrom
    exact hfrom hlong

/-! ## Operators of nullable types -/

/-- Types are not related if there is no conversion either way. -/
theorem exists_relate_eq_error_iff {u : Universe} {source target : TypeRef} :
    (∃ e, u.relate source target = .error e) ↔
      (u.conversions source target).exist = false ∧
        (u.conversions target source).exist = false := by
  unfold relate
  by_cases hsame : u.canonical source = u.canonical target
  · have hexist : (u.conversions source target).exist = true := by
      rw [exist_conversions, hsame, builtIn_self]
      exact Bool.or_true _
    simp [hsame, hexist]
  · cases hforward : (u.conversions source target).exist <;>
      cases hbackward : (u.conversions target source).exist <;> simp [hsame, hforward, hbackward]

theorem find?_of_isNullable (u : Universe) {t : TypeRef} (h : t.isNullable = true) :
    u.find? t = none := by
  cases t with
  | named path args => simp [TypeRef.isNullable] at h
  | array element rank => simp [TypeRef.isNullable] at h
  | nullable inner => rfl

/-- No declaration is found for a nullable type, so one of the two types of an
operator is not nullable. -/
theorem not_nullable_of_has_byOperators {u : Universe} {source target : TypeRef}
    {k : OperatorKind} (h : (u.byOperators source target).has k = true) :
    source.isNullable = false ∨ target.isNullable = false := by
  obtain ⟨d, hd, -⟩ := has_byOperators_iff.mp h
  have hfound : ∀ t, u.find? (u.canonical t) = some d → t.isNullable = false := by
    intro t ht
    rw [Bool.eq_false_iff]
    intro hnullable
    rw [u.find?_of_isNullable ((u.isNullable_canonical t).trans hnullable)] at ht
    exact Option.some_ne_none d ht.symm
  exact hd.imp (hfound source) (hfound target)

/-- Which kinds of operators are lifted to two types, for types that operators
are declared for. -/
theorem has_lifted_iff_of_has_byOperators {u : Universe} {source target : TypeRef}
    {k : OperatorKind} (h : (u.byOperators source target).has k = true) :
    (u.lifted (u.canonical source) (u.canonical target)).has k = true ↔
      (source.isNullable = false ∧ target.isNullable = false) ∨
      (target.isNullable = true ∧
        (u.declared (u.canonical source) (u.canonical target).bare).has k = true) ∨
      (source.isNullable = true ∧ k = .explicit ∧
        (u.declared (u.canonical source).bare (u.canonical target)).exist = true) := by
  have hbare : ∀ t : TypeRef, t.isNullable = false → (u.canonical t).bare = u.canonical t :=
    fun t ht => TypeRef.bare_of_isNullable_eq_false ((u.isNullable_canonical t).trans ht)
  rw [lifted_eq_bare, isNullable_canonical, isNullable_canonical]
  cases hs : source.isNullable with
  | false =>
    cases ht : target.isNullable with
    | false =>
      rw [hbare source hs, hbare target ht]
      exact ⟨fun _ => .inl ⟨rfl, rfl⟩, fun _ => h⟩
    | true => simp [hbare source hs]
  | true =>
    -- Then the target is the type that declares the operator, and it has no mark.
    have ht : target.isNullable = false :=
      (not_nullable_of_has_byOperators h).resolve_left (by simp [hs])
    simp [ht, hbare target ht, Conversions.has_narrowed_iff]

/-- Types that an operator is declared for are not related exactly if one of
them is nullable, and nothing joins them without their marks. -/
theorem exists_relate_eq_error_iff_of_has_byOperators {u : Universe} {source target : TypeRef}
    {k : OperatorKind} (h : (u.byOperators source target).has k = true) :
    (∃ e, u.relate source target = .error e) ↔
      (source.isNullable = true ∨ target.isNullable = true) ∧
      (u.declared (u.canonical source).bare (u.canonical target).bare).exist = false ∧
      (u.declared (u.canonical target).bare (u.canonical source).bare).exist = false ∧
      (u.builtIn (u.canonical source) (u.canonical target)).exist = false := by
  rw [exists_relate_eq_error_iff]
  constructor
  · intro hnone
    obtain ⟨hforward, hbackward⟩ := hnone
    have hnullable : source.isNullable = true ∨ target.isNullable = true := by
      by_contra hplain
      simp only [not_or, Bool.not_eq_true] at hplain
      rw [u.conversions_of_not_nullable hplain.1 hplain.2, Conversions.exist_union,
        Conversions.exist_iff_exists_has.mpr ⟨_, h⟩, Bool.true_or] at hforward
      exact Bool.false_ne_true hforward.symm
    rw [exist_conversions, Bool.or_eq_false_iff] at hforward hbackward
    exact ⟨hnullable, hforward.1, hbackward.1, hforward.2⟩
  · intro hnone
    obtain ⟨-, hforward, hbackward, hbuiltIn⟩ := hnone
    rw [exist_conversions, exist_conversions, hforward, hbackward,
      u.exist_builtIn_comm (u.canonical target), hbuiltIn]
    exact ⟨rfl, rfl⟩

/-- Types that an operator is declared for have a conversion of its kind exactly
if neither of them is nullable, or if operators between the types without their
marks provide that kind, or the language does.  They are not related exactly if
one of them is nullable and, without their marks, no operator joins them either
way, and the language does not join them. -/
theorem has_conversions_iff_of_has_byOperators (u : Universe) {source target : TypeRef}
    {k : OperatorKind} (h : (u.byOperators source target).has k = true) :
    ((u.conversions source target).has k = true ↔
      ((source.isNullable = false ∧ target.isNullable = false) ∨
        (target.isNullable = true ∧
          (u.declared (u.canonical source) (u.canonical target).bare).has k = true) ∨
        (source.isNullable = true ∧ k = .explicit ∧
          (u.declared (u.canonical source).bare (u.canonical target)).exist = true)) ∨
      (u.builtIn (u.canonical source) (u.canonical target)).has k = true) ∧
    ((∃ e, u.relate source target = .error e) ↔
      (source.isNullable = true ∨ target.isNullable = true) ∧
      (u.declared (u.canonical source).bare (u.canonical target).bare).exist = false ∧
      (u.declared (u.canonical target).bare (u.canonical source).bare).exist = false ∧
      (u.builtIn (u.canonical source) (u.canonical target)).exist = false) := by
  refine ⟨?_, exists_relate_eq_error_iff_of_has_byOperators h⟩
  rw [conversions, Conversions.has_union, Bool.or_eq_true, has_lifted_iff_of_has_byOperators h]

end Universe

/-! ## An operator that takes a nullable type -/

namespace Tide

def number : TypeRef := .named "double" []

def depth : TypeRef := .named "Geo.Depth" []

def level : TypeRef := .named "Geo.Level" []

/-- A depth converts to a number, and a number that may be missing to a level. -/
def snapshot : Snapshot :=
  ⟨[⟨⟨some "Geo", "Depth", .structType, []⟩, [], none, [⟨.explicit, depth, number⟩]⟩,
    ⟨⟨some "Geo", "Level", .structType, []⟩, [], none, [⟨.implicit, .nullable number, level⟩]⟩], []⟩

/-- The operator of the depth counts, since neither of its types is nullable. -/
theorem has_conversions_depth :
    snapshot.validate = .ok () ∧
      (snapshot.toUniverse.byOperators depth number).has .explicit = true ∧
      (snapshot.toUniverse.conversions depth number).has .explicit = true ∧
      ¬ ∃ e, snapshot.toUniverse.relate depth number = .error e := by
  have hvalid : snapshot.validate = .ok () := by rfl
  have hdeclared : (snapshot.toUniverse.byOperators depth number).has .explicit = true := by rfl
  obtain ⟨hkept, hrejected⟩ :=
    Universe.has_conversions_iff_of_has_byOperators snapshot.toUniverse hdeclared
  refine ⟨hvalid, hdeclared, hkept.mpr (.inl (.inl ⟨rfl, rfl⟩)), ?_⟩
  rw [hrejected]
  simp [TypeRef.isNullable, depth, number]

/-- A number that may be missing is not related to a level, though the snapshot
is valid and the operator is declared for just these types. -/
theorem relate_level_eq_error :
    snapshot.validate = .ok () ∧
      (snapshot.toUniverse.byOperators (.nullable number) level).has .implicit = true ∧
      (snapshot.toUniverse.conversions (.nullable number) level).has .implicit = false ∧
      ∃ e, snapshot.toUniverse.relate (.nullable number) level = .error e := by
  have hvalid : snapshot.validate = .ok () := by rfl
  have hdeclared : (snapshot.toUniverse.byOperators (.nullable number) level).has .implicit =
      true := by rfl
  have hplain : (snapshot.toUniverse.plain number level).exist = false := by
    rw [Universe.exist_plain, Universe.hasAncestor_eq_false (by rfl),
      Universe.hasAncestor_eq_false (by rfl)]
    rfl
  have hbuiltIn : snapshot.toUniverse.builtIn (snapshot.toUniverse.canonical (.nullable number))
      (snapshot.toUniverse.canonical level) =
        (snapshot.toUniverse.plain number level).narrowed := by rfl
  have herror : ∃ e, snapshot.toUniverse.relate (.nullable number) level = .error e := by
    refine (Universe.exists_relate_eq_error_iff_of_has_byOperators hdeclared).mpr
      ⟨.inl rfl, by rfl, by rfl, ?_⟩
    rw [hbuiltIn, Conversions.exist_narrowed, hplain]
  refine ⟨hvalid, hdeclared, ?_, herror⟩
  rw [Bool.eq_false_iff]
  intro hhas
  have hexist := Conversions.exist_iff_exists_has.mpr ⟨_, hhas⟩
  rw [(Universe.exists_relate_eq_error_iff.mp herror).1] at hexist
  exact Bool.false_ne_true hexist

end Tide

end AccessorGen
