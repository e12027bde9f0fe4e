import AccessorGen.Proofs.Casts

set_option autoImplicit false

/-!
# What comes of a field, case by case

A field with the directive on it goes through several checks, and the first one
that fails decides: the container has to be a type that can be split into parts,
the directive has to be one that can be followed, and the accessor's type has to
be the field's or to convert in one direction at least.  A name that cannot be
derived is no reason to skip the field, and nothing is said about the name of a
field that is skipped.

Casts are put in if the canonical forms of the two types differ, and name the
types as they are written.  The policy alone decides about the setter.
-/

namespace AccessorGen

/-! ## Requests and relations -/

theorem TypeKind.canBePartial_eq_false_iff {k : TypeKind} :
    k.canBePartial = false ↔ k = .enumType := by
  cases k <;> simp [canBePartial]

namespace Directive.Annotated

theorem request_of_enum {a : Annotated} (h : a.field.container.kind = .enumType) :
    a.request = .error (.notPartial a.field.container.text) := by
  rw [request, TypeKind.canBePartial_eq_false_iff.mpr h]
  rfl

theorem request_of_ne_enum {a : Annotated} (h : a.field.container.kind ≠ .enumType) :
    a.request = Request.ofLiterals a.directive.args a.field.type := by
  have hpartial : a.field.container.kind.canBePartial = true :=
    Bool.ne_false_iff.mp (mt TypeKind.canBePartial_eq_false_iff.mp h)
  rw [request, if_pos hpartial]

end Directive.Annotated

namespace Universe

variable {u : Universe} {source target : TypeRef}

theorem relate_of_unjoined (hne : u.canonical source ≠ u.canonical target)
    (hforward : (u.conversions source target).exist = false)
    (hback : (u.conversions target source).exist = false) :
    u.relate source target = .error ⟨source, target⟩ := by
  simp [relate, hne, hforward, hback]

/-- Types that are the same or convert are related, by a cast if they are not
the same. -/
theorem exists_relate_of_joined (h : u.canonical source = u.canonical target ∨
      (u.conversions source target).exist = true ∨ (u.conversions target source).exist = true) :
    ∃ conversion, u.relate source target = .ok conversion ∧
      (conversion.needsCast = true ↔ u.canonical source ≠ u.canonical target) := by
  by_cases hsame : u.canonical source = u.canonical target
  · refine ⟨.identity, ?_, ?_⟩
    · simp [relate, hsame]
    · simp [Conversion.needsCast, hsame]
  · have hexist : ((u.conversions source target).exist ||
        (u.conversions target source).exist) = true :=
      Bool.or_eq_true_iff.mpr (h.resolve_left hsame)
    refine ⟨.cast (u.conversions source target) (u.conversions target source), ?_, ?_⟩
    · simp [relate, hsame, hexist]
    · simp [Conversion.needsCast, hsame]

end Universe

/-! ## Accessors -/

/-- The accessor is the one that a request asks for on a field. -/
structure Accessor.Serves (u : Universe) (f : Field) (r : Directive.Request)
    (accessor : Accessor) : Prop where
  field : accessor.field = f.ident
  fieldType : accessor.fieldType = f.type
  type : accessor.type = r.target
  policy : accessor.policy = r.effectivePolicy
  /-- A value is cast unless the types have one canonical form. -/
  getter : accessor.getter =
    if u.canonical f.type = u.canonical r.target then .direct else .cast r.target
  /-- There is a setter unless the policy is for reading only. -/
  setter : accessor.setter.isSome = true ↔ r.effectivePolicy.mutability ≠ .getOnly
  isPrivate : ∀ setter, accessor.setter = some setter →
    (setter.isPrivate = true ↔ r.effectivePolicy.mutability = .getPrivateSet)
  /-- The setter casts back exactly if the getter casts. -/
  passage : ∀ setter, accessor.setter = some setter →
    setter.passage = if accessor.getter = .direct then .direct else .cast f.type

namespace Accessor

theorem isSome_setterFor_iff {policy : AccessPolicy} {passage : Passage} :
    (setterFor policy passage).isSome = true ↔ policy.mutability ≠ .getOnly := by
  unfold setterFor
  cases policy.mutability <;> simp

theorem isPrivate_of_setterFor {policy : AccessPolicy} {passage : Passage} {setter : Setter}
    (h : setterFor policy passage = some setter) :
    setter.isPrivate = true ↔ policy.mutability = .getPrivateSet := by
  unfold setterFor at h
  split at h
  · exact absurd h nofun
  · rename_i hmutability
    rw [← Option.some.inj h, hmutability]
    exact iff_of_false nofun nofun
  · rename_i hmutability
    rw [← Option.some.inj h, hmutability]
    exact iff_of_true rfl rfl

theorem serves_ofField {u : Universe} {f : Field} {r : Directive.Request} {conversion : Conversion}
    (name : String)
    (h : conversion.needsCast = true ↔ u.canonical f.type ≠ u.canonical r.target) :
    (ofField name f r.target r.effectivePolicy conversion).Serves u f r := by
  have hgetter : (ofField name f r.target r.effectivePolicy conversion).getter =
      if u.canonical f.type = u.canonical r.target then .direct else .cast r.target := by
    by_cases hsame : u.canonical f.type = u.canonical r.target
    · have hcast : ¬ conversion.needsCast = true := fun hcast => h.mp hcast hsame
      simp [ofField, hcast, hsame]
    · simp [ofField, h.mpr hsame, hsame]
  refine ⟨rfl, rfl, rfl, rfl, hgetter, isSome_setterFor_iff, ?_, ?_⟩
  · intro setter hsetter
    exact isPrivate_of_setterFor hsetter
  · intro setter hsetter
    rw [passage_of_setter_ofField hsetter]
    cases hcast : conversion.needsCast <;> simp [ofField, hcast]

end Accessor

/-! ## Names -/

namespace Directive.Annotated

variable {a : Annotated}

theorem accessorName_of_no_lowercase (h : ∀ c ∈ a.field.ident.toList, Text.isLowercase c = false) :
    a.accessorName = (AccessorName.fallback,
      some (.ofFallback AccessorName.fallback a.field.ident a.field.location)) := by
  rw [accessorName, AccessorName.derive?_eq_none_iff.mpr h]

theorem accessorName_of_lowercase (h : ∃ c ∈ a.field.ident.toList, Text.isLowercase c = true) :
    AccessorName.derive? a.field.ident = some a.accessorName.1 ∧ a.accessorName.2 = none := by
  unfold accessorName
  cases hname : AccessorName.derive? a.field.ident with
  | some name => exact ⟨rfl, rfl⟩
  | none =>
    obtain ⟨c, hc, hlower⟩ := h
    have hnone := AccessorName.derive?_eq_none_iff.mp hname c hc
    exact absurd (hlower.symm.trans hnone) nofun

end Directive.Annotated

/-! ## Outcomes -/

/-- The only diagnostic about the field has that code and that message. -/
def Outcome.Reports (o : Outcome) (f : Field) (code message : String) : Prop :=
  ∃ d, o.diagnostics = [d] ∧ d.code.text = code ∧ d.message = message ∧ d.field = f.ident ∧
    d.location = f.location

namespace Settings

section Stages

variable (settings : Settings) (s : Snapshot) {a : Directive.Annotated}

theorem outcome_of_fault {fault : Directive.Fault} (h : a.request = .error fault) :
    (settings.outcome s a).accessor? = none ∧
      (settings.outcome s a).Reports a.field "APG002"
        ("Invalid " ++ settings.baseName ++ " arguments on field '" ++ a.field.ident ++ "': " ++
          fault.message) := by
  rw [outcome, Directive.Annotated.outcome, h]
  exact ⟨rfl, _, rfl, rfl, rfl, rfl, rfl⟩

/-- The types are reported as they are written. -/
theorem outcome_of_unrelated {r : Directive.Request} (hrequest : a.request = .ok r)
    (h : s.toUniverse.relate a.field.type r.target = .error ⟨a.field.type, r.target⟩) :
    (settings.outcome s a).accessor? = none ∧
      (settings.outcome s a).Reports a.field "APG001"
        ("No implicit or explicit conversion found from '" ++ a.field.type.text ++ "' to '" ++
          r.target.text ++ "'") := by
  rw [outcome, Directive.Annotated.outcome, hrequest]
  simp only [h]
  exact ⟨rfl, _, rfl, rfl, rfl, rfl, rfl⟩

theorem outcome_of_related {r : Directive.Request} {conversion : Conversion}
    (hrequest : a.request = .ok r)
    (h : s.toUniverse.relate a.field.type r.target = .ok conversion) :
    (settings.outcome s a).accessor? =
        some (.ofField a.accessorName.1 a.field r.target r.effectivePolicy conversion) ∧
      (settings.outcome s a).diagnostics = a.accessorName.2.toList := by
  have hresolved : settings.outcome s a =
      .resolved (.ofField a.accessorName.1 a.field r.target r.effectivePolicy conversion) r.shape
        a.accessorName.2 :=
    Directive.Annotated.outcome_eq_resolved_iff.mpr ⟨r, conversion, hrequest, h, rfl, rfl, rfl⟩
  rw [hresolved]
  exact ⟨rfl, rfl⟩

end Stages

/-- What comes of a field with the directive on it.  In an enum it is skipped,
whatever the arguments are.  Otherwise it is skipped if the directive cannot be
followed.  Otherwise it is skipped if the canonical forms of the two types differ
and there is no conversion either way, whatever its name is.  Otherwise it has
the accessor that is asked for, under the name derived from its own and without
any diagnostic, or under a name made up for it if it holds no lower case
character, with a warning. -/
theorem outcome_cases (settings : Settings) (s : Snapshot) (a : Directive.Annotated) :
    (a.field.container.kind = .enumType →
      (settings.outcome s a).accessor? = none ∧
      (settings.outcome s a).Reports a.field "APG002"
        ("Invalid " ++ settings.baseName ++ " arguments on field '" ++ a.field.ident ++ "': " ++
          (Directive.Fault.notPartial a.field.container.text).message)) ∧
    (a.field.container.kind ≠ .enumType →
      (∀ fault, Directive.Request.ofLiterals a.directive.args a.field.type = .error fault →
        (settings.outcome s a).accessor? = none ∧
        (settings.outcome s a).Reports a.field "APG002"
          ("Invalid " ++ settings.baseName ++ " arguments on field '" ++ a.field.ident ++ "': " ++
            fault.message)) ∧
      ∀ r, Directive.Request.ofLiterals a.directive.args a.field.type = .ok r →
        (s.toUniverse.canonical a.field.type ≠ s.toUniverse.canonical r.target ∧
            (s.toUniverse.conversions a.field.type r.target).exist = false ∧
            (s.toUniverse.conversions r.target a.field.type).exist = false →
          (settings.outcome s a).accessor? = none ∧
          (settings.outcome s a).Reports a.field "APG001"
            ("No implicit or explicit conversion found from '" ++ a.field.type.text ++ "' to '" ++
              r.target.text ++ "'")) ∧
        (s.toUniverse.canonical a.field.type = s.toUniverse.canonical r.target ∨
            (s.toUniverse.conversions a.field.type r.target).exist = true ∨
            (s.toUniverse.conversions r.target a.field.type).exist = true →
          ∃ accessor, (settings.outcome s a).accessor? = some accessor ∧
            accessor.Serves s.toUniverse a.field r ∧
            ((∀ c ∈ a.field.ident.toList, Text.isLowercase c = false) →
              accessor.name = AccessorName.fallback ∧
              (settings.outcome s a).Reports a.field "APG003"
                ("Field '" ++ a.field.ident ++ "' has no lowercase letter to promote; using '" ++
                  AccessorName.fallback ++ "'")) ∧
            ((∃ c ∈ a.field.ident.toList, Text.isLowercase c = true) →
              AccessorName.derive? a.field.ident = some accessor.name ∧
              (settings.outcome s a).diagnostics = []))) := by
  constructor
  · intro henum
    exact settings.outcome_of_fault s (a.request_of_enum henum)
  · intro hkind
    have hrequest := a.request_of_ne_enum hkind
    constructor
    · intro fault hfault
      exact settings.outcome_of_fault s (hrequest.trans hfault)
    · intro r hr
      constructor
      · intro hunjoined
        obtain ⟨hne, hforward, hback⟩ := hunjoined
        exact settings.outcome_of_unrelated s (hrequest.trans hr)
          (Universe.relate_of_unjoined hne hforward hback)
      · intro hjoined
        obtain ⟨conversion, hrelate, hcast⟩ := Universe.exists_relate_of_joined hjoined
        obtain ⟨haccessor, hdiagnostics⟩ :=
          settings.outcome_of_related s (hrequest.trans hr) hrelate
        refine ⟨_, haccessor, Accessor.serves_ofField _ hcast, ?_, ?_⟩
        · intro hno
          rw [a.accessorName_of_no_lowercase hno] at hdiagnostics ⊢
          exact ⟨rfl, _, hdiagnostics, rfl, rfl, rfl, rfl⟩
        · intro hsome
          obtain ⟨hname, hnone⟩ := a.accessorName_of_lowercase hsome
          refine ⟨hname, ?_⟩
          rw [hdiagnostics, hnone]
          rfl

end Settings

end AccessorGen
