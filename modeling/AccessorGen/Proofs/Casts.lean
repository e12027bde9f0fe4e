import AccessorGen.Generation
import AccessorGen.Proofs.Agreement

set_option autoImplicit false

/-!
# Casts

An accessor is made as soon as one of the two directions between the field's
type and its own has a conversion, and it casts both ways.  The conversions of
the language go both ways or neither: one direction is implicit, the other
explicit at least.  So a cast lacks a conversion of its own direction only where
the two types are joined by nothing but declared operators, and these all go
against the cast.
-/

namespace AccessorGen

namespace Universe

/-! ## Conversions of the language go both ways -/

theorem isSome_arithmetic? (source target : TypeRef) :
    (arithmetic? source target).isSome = (source.isArithmetic && target.isArithmetic) := by
  unfold arithmetic? TypeRef.isArithmetic
  cases source.predefined? with
  | none => rfl
  | some p =>
    cases target.predefined? with
    | none => simp
    | some q => cases hp : p.isArithmetic <;> cases hq : q.isArithmetic <;> simp [hp, hq]

theorem exist_of_arithmetic? {source target : TypeRef} {c : Conversions}
    (h : arithmetic? source target = some c) : c.exist = true := by
  unfold arithmetic? at h
  split at h
  · split at h
    · obtain rfl := Option.some.inj h
      split <;> rfl
    · simp at h
  · simp at h

theorem exist_alongBases (u : Universe) (source target : TypeRef) :
    (u.alongBases source target).exist =
      (u.hasAncestor source target || u.hasAncestor target source) := by
  unfold alongBases
  split
  · simp_all
  · split <;> simp_all

/-- Two types that are neither nullable nor `object` are joined if both are
numbers, if one is an enum and the other a number, or if one derives from the
other. -/
theorem exist_plain (u : Universe) (source target : TypeRef) :
    (u.plain source target).exist =
      ((source.isArithmetic && target.isArithmetic) || u.isEnumAndNumber source target ||
        (u.hasAncestor source target || u.hasAncestor target source)) := by
  have harithmetic := isSome_arithmetic? source target
  unfold plain
  split
  · rename_i c hc
    rw [hc, Option.isSome_some] at harithmetic
    rw [exist_of_arithmetic? hc, ← harithmetic, Bool.true_or, Bool.true_or]
  · rename_i hnone
    rw [hnone, Option.isSome_none] at harithmetic
    rw [← harithmetic, Bool.false_or]
    cases henum : u.isEnumAndNumber source target with
    | true => rfl
    | false => simp [exist_alongBases]

theorem isEnumAndNumber_comm (u : Universe) (a b : TypeRef) :
    u.isEnumAndNumber a b = u.isEnumAndNumber b a := by
  rw [isEnumAndNumber, isEnumAndNumber, Bool.or_comm, Bool.and_comm, Bool.and_comm (u.isEnum a)]

theorem exist_plain_comm (u : Universe) (a b : TypeRef) :
    (u.plain a b).exist = (u.plain b a).exist := by
  rw [exist_plain, exist_plain, Bool.and_comm, isEnumAndNumber_comm,
    Bool.or_comm (u.hasAncestor a b)]

theorem exist_unwrapped_comm (u : Universe) (a b : TypeRef) :
    (u.unwrapped a b).exist = (u.unwrapped b a).exist := by
  unfold unwrapped
  by_cases hab : a = b
  · rw [hab]
  · have hba : b ≠ a := Ne.symm hab
    cases ha : a.isObject <;> cases hb : b.isObject <;> simp [hab, hba, u.exist_plain_comm a b]

/-- The conversions of the language go both ways or neither. -/
theorem exist_builtIn_comm (u : Universe) (a b : TypeRef) :
    (u.builtIn a b).exist = (u.builtIn b a).exist := by
  by_cases hab : a = b
  · rw [hab]
  · have hba : b ≠ a := Ne.symm hab
    cases ha : a.isObject with
    | true => cases hb : b.isObject <;> simp [builtIn, hab, hba, ha, hb]
    | false =>
      cases hb : b.isObject with
      | true => simp [builtIn, hab, hba, ha, hb]
      | false =>
        simp only [builtIn, hab, hba, ha, hb, or_self, Bool.false_eq_true, if_false]
        cases a <;> cases b <;> simp [u.exist_unwrapped_comm, u.exist_plain_comm]

/-! ## What backs a cast -/

/-- Two types are joined by nothing but declared operators, and these all lead
from the first to the second. -/
structure OneWay (u : Universe) (source target : TypeRef) : Prop where
  operators : (u.lifted (u.canonical source) (u.canonical target)).exist = true
  builtIn : (u.builtIn (u.canonical source) (u.canonical target)).exist = false
  back : (u.conversions target source).exist = false

/-- A cast has a conversion of its own direction, or operators alone join the
types and none of them goes its way. -/
def CastBacked (u : Universe) (source target : TypeRef) : Prop :=
  (u.conversions source target).exist = true ∨ u.OneWay target source

/-- A conversion in either direction is all it takes to back a cast. -/
theorem castBacked_iff (u : Universe) (source target : TypeRef) :
    u.CastBacked source target ↔
      (u.conversions source target).exist = true ∨ (u.conversions target source).exist = true := by
  constructor
  · rintro (hforward | hback)
    · exact .inl hforward
    · refine .inr ?_
      rw [conversions, Conversions.exist_union, hback.operators, Bool.true_or]
  · rintro (hforward | hback)
    · exact .inl hforward
    · by_cases hforward : (u.conversions source target).exist = true
      · exact .inl hforward
      · have hnone : (u.conversions source target).exist = false := Bool.eq_false_iff.mpr hforward
        have hbuiltIn : (u.builtIn (u.canonical target) (u.canonical source)).exist = false := by
          rw [conversions, Conversions.exist_union, Bool.or_eq_false_iff] at hnone
          rw [exist_builtIn_comm]
          exact hnone.2
        rw [conversions, Conversions.exist_union, hbuiltIn, Bool.or_false] at hback
        exact .inr ⟨hback, hbuiltIn, hnone⟩

/-- Types that are related by a cast back it in both directions. -/
theorem castBacked_of_relate {u : Universe} {source target : TypeRef} {conversion : Conversion}
    (h : u.relate source target = .ok conversion) (hcast : conversion.needsCast = true) :
    u.CastBacked source target ∧ u.CastBacked target source := by
  have hexist : (u.conversions source target).exist = true ∨
      (u.conversions target source).exist = true := by
    simp only [relate] at h
    split at h
    · obtain rfl := Except.ok.inj h
      simp [Conversion.needsCast] at hcast
    · split at h
      · rename_i hany
        rwa [Bool.or_eq_true] at hany
      · simp at h
  exact ⟨(u.castBacked_iff source target).mpr hexist,
    (u.castBacked_iff target source).mpr hexist.symm⟩

end Universe

/-! ## The casts of an accessor -/

namespace Accessor

variable {name : String} {f : Field} {target t : TypeRef} {policy : AccessPolicy}
  {conversion : Conversion}

theorem getter_ofField_eq_cast_iff :
    (ofField name f target policy conversion).getter = .cast t ↔
      conversion.needsCast = true ∧ t = target := by
  cases h : conversion.needsCast <;> simp [ofField, h, eq_comm]

theorem passage_of_setter_ofField {setter : Setter}
    (h : (ofField name f target policy conversion).setter = some setter) :
    setter.passage = if conversion.needsCast then .cast f.type else .direct := by
  simp only [ofField, setterFor] at h
  split at h
  · simp at h
  · exact congrArg Setter.passage (Option.some.inj h).symm
  · exact congrArg Setter.passage (Option.some.inj h).symm

end Accessor

/-- A field gets an accessor if its directive can be followed and the types it
joins are related. -/
theorem Directive.Annotated.outcome_eq_resolved_iff {baseName : String} {u : Universe}
    {a : Annotated} {accessor : Accessor} {shape : String} {warning : Option Diagnostic} :
    a.outcome baseName u = .resolved accessor shape warning ↔
      ∃ request conversion, a.request = .ok request ∧
        u.relate a.field.type request.target = .ok conversion ∧
        accessor = .ofField a.accessorName.1 a.field request.target request.effectivePolicy
          conversion ∧
        shape = request.shape ∧ warning = a.accessorName.2 := by
  unfold outcome
  cases hrequest : a.request with
  | error fault => simp
  | ok request =>
    cases hrelate : u.relate a.field.type request.target with
    | error e => simp [hrelate]
    | ok conversion => simp [hrelate, eq_comm]

/-- Every cast of an accessor is backed: the getter's from the field's type to
the accessor's, and the setter's the other way. -/
theorem Settings.castBacked_of_resolved (settings : Settings) (s : Snapshot)
    {a : Directive.Annotated} {accessor : Accessor} {shape : String} {warning : Option Diagnostic}
    (h : settings.outcome s a = .resolved accessor shape warning) :
    (∀ t, accessor.getter = .cast t →
      t = accessor.type ∧ s.toUniverse.CastBacked a.field.type t) ∧
    (∀ setter t, accessor.setter = some setter → setter.passage = .cast t →
      t = a.field.type ∧ s.toUniverse.CastBacked accessor.type t) := by
  obtain ⟨request, conversion, -, hrelate, rfl, -, -⟩ :=
    Directive.Annotated.outcome_eq_resolved_iff.mp h
  constructor
  · intro t hgetter
    obtain ⟨hcast, rfl⟩ := Accessor.getter_ofField_eq_cast_iff.mp hgetter
    exact ⟨rfl, (Universe.castBacked_of_relate hrelate hcast).1⟩
  · intro setter t hsetter hpassage
    rw [Accessor.passage_of_setter_ofField hsetter] at hpassage
    split at hpassage
    · rename_i hcast
      obtain rfl := Passage.cast.inj hpassage
      exact ⟨rfl, (Universe.castBacked_of_relate hrelate hcast).2⟩
    · simp at hpassage

/-! ## An operator one way -/

namespace Harbour

/-- Lengths are made from numbers by an operator, and no operator goes back. -/
def meters : TypeDecl :=
  ⟨⟨some "Geo", "Meters", .structType, []⟩, [], none,
    [⟨.implicit, .named "double" [], .named "Geo.Meters" []⟩]⟩

/-- A length that is read as a number. -/
def depth : Directive.Annotated :=
  ⟨⟨"depth", .named "Geo.Meters" [], ⟨some "Geo", "Harbour", .classType, []⟩,
      [⟨"AutoProp", [.type (.named "double" [])]⟩], none⟩,
    ⟨"AutoProp", [.type (.named "double" [])]⟩⟩

/-- A number that is read and written as a length. -/
def shore : Directive.Annotated :=
  ⟨⟨"shore", .named "double" [], ⟨some "Geo", "Harbour", .classType, []⟩,
      [⟨"AutoProp", [.type (.named "Geo.Meters" []), .bool true]⟩], none⟩,
    ⟨"AutoProp", [.type (.named "Geo.Meters" []), .bool true]⟩⟩

def snapshot : Snapshot := ⟨[meters], [depth.field, shore.field]⟩

def depthAccessor : Accessor :=
  ⟨"Depth", "depth", .named "double" [], .named "Geo.Meters" [], .publicGet,
    .cast (.named "double" []), none⟩

def shoreAccessor : Accessor :=
  ⟨"Shore", "shore", .named "Geo.Meters" [], .named "double" [], .publicGetSet,
    .cast (.named "Geo.Meters" []), some ⟨false, .cast (.named "double" [])⟩⟩

/-- Both casts of the shore are backed by the one operator. -/
theorem castBacked_shore :
    Settings.standard.outcome snapshot shore = .resolved shoreAccessor "type_setter" none ∧
      snapshot.toUniverse.CastBacked (.named "double" []) (.named "Geo.Meters" []) ∧
      snapshot.toUniverse.CastBacked (.named "Geo.Meters" []) (.named "double" []) := by
  have hresolved : Settings.standard.outcome snapshot shore =
      .resolved shoreAccessor "type_setter" none := by rfl
  have hbacked := Settings.castBacked_of_resolved .standard snapshot hresolved
  exact ⟨hresolved, (hbacked.1 _ rfl).2, (hbacked.2 _ _ rfl rfl).2⟩

theorem exist_conversions_meters_double :
    (snapshot.toUniverse.conversions (.named "Geo.Meters" []) (.named "double" [])).exist =
      false := by
  have hlifted : (snapshot.toUniverse.lifted (.named "Geo.Meters" []) (.named "double" [])).exist =
      false := by rfl
  have hplain : (snapshot.toUniverse.plain (.named "Geo.Meters" []) (.named "double" [])).exist =
      false := by
    rw [Universe.exist_plain, Universe.hasAncestor_eq_false (by rfl),
      Universe.hasAncestor_eq_false (by rfl)]
    rfl
  have hmeters : snapshot.toUniverse.canonical (.named "Geo.Meters" []) =
      .named "Geo.Meters" [] := by rfl
  have hdouble : snapshot.toUniverse.canonical (.named "double" []) = .named "double" [] := by rfl
  have hbuiltIn : snapshot.toUniverse.builtIn (.named "Geo.Meters" []) (.named "double" []) =
      snapshot.toUniverse.plain (.named "Geo.Meters" []) (.named "double" []) := by rfl
  rw [Universe.conversions, Conversions.exist_union, hmeters, hdouble, hlifted, hbuiltIn, hplain,
    Bool.false_or]

theorem relate_meters_double :
    snapshot.toUniverse.relate (.named "Geo.Meters" []) (.named "double" []) =
      .ok (.cast (snapshot.toUniverse.conversions (.named "Geo.Meters" []) (.named "double" []))
        (snapshot.toUniverse.conversions (.named "double" []) (.named "Geo.Meters" []))) := by
  have hne : snapshot.toUniverse.canonical (.named "Geo.Meters" []) ≠
      snapshot.toUniverse.canonical (.named "double" []) := by decide +kernel
  have hback : (snapshot.toUniverse.conversions (.named "double" [])
      (.named "Geo.Meters" [])).exist = true := by rfl
  simp [Universe.relate, hne, hback]

/-- The getter of the depth and the setter of the shore cast where nothing
converts in their direction. -/
theorem casts_against_operator :
    snapshot.validate = .ok () ∧
      Settings.standard.annotated snapshot = [depth, shore] ∧
      Settings.standard.outcome snapshot depth = .resolved depthAccessor "type" none ∧
      depthAccessor.getter = .cast (.named "double" []) ∧
      Settings.standard.outcome snapshot shore = .resolved shoreAccessor "type_setter" none ∧
      shoreAccessor.setter = some ⟨false, .cast (.named "double" [])⟩ ∧
      (snapshot.toUniverse.conversions (.named "Geo.Meters" []) (.named "double" [])).exist =
        false := by
  have hvalid : snapshot.validate = .ok () := by rfl
  have hannotated : Settings.standard.annotated snapshot = [depth, shore] := by rfl
  have hdepth : Settings.standard.outcome snapshot depth = .resolved depthAccessor "type" none :=
    Directive.Annotated.outcome_eq_resolved_iff.mpr
      ⟨⟨.named "double" [], .publicGet, false, "type"⟩, _, by rfl, relate_meters_double, by rfl,
        rfl, by rfl⟩
  have hshore : Settings.standard.outcome snapshot shore =
      .resolved shoreAccessor "type_setter" none := by rfl
  exact ⟨hvalid, hannotated, hdepth, rfl, hshore, rfl, exist_conversions_meters_double⟩

end Harbour

end AccessorGen
