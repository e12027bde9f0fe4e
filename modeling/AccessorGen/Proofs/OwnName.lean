import AccessorGen.Proofs.Agreement
import AccessorGen.Proofs.Naming
import AccessorGen.Proofs.Validity

set_option autoImplicit false

/-!
# The own name of a type

Inside its declaration a type may be written with its namespace or without, and
validation accepts both.  Conversions look every name up among all declarations,
where the name without its namespace may be the name of another type or of none.
So an operator that leaves the namespace out takes part in the conversions of
its type exactly if no other declaration shares the name, or if a second
operator stands in for it.
-/

namespace AccessorGen

/-! ## Names and dots -/

theorem Predefined.dot_not_mem_keyword (p : Predefined) : '.' ∉ p.keyword.toList := by
  cases p <;> decide

/-- Normal spelling brings no dot into a plain path. -/
theorem TypeRef.dot_not_mem_normalPath {path : String} (hplain : Text.IsPlain path.toList)
    (hdot : '.' ∉ path.toList) : '.' ∉ (normalPath path).toList := by
  rw [normalPath_of_isPlain hplain]
  cases Predefined.ofName? path with
  | none => exact hdot
  | some p => exact p.dot_not_mem_keyword

theorem TypeHeader.length_args (h : TypeHeader) :
    (h.params.map TypeRef.ofPath).length = h.arity := List.length_map _

/-- A valid header refers to its type by the qualified name, unless that is the
framework name of a predefined type. -/
theorem TypeHeader.typeRef_eq {h : TypeHeader} (hissues : h.issues = [])
    (hframework : ∀ p : Predefined, h.qualifiedName ≠ p.framework) :
    h.typeRef = .named h.qualifiedName (h.params.map TypeRef.ofPath) := by
  rw [typeRef, TypeRef.generic,
    TypeRef.normalPath_eq_self (isPlain_qualifiedName hissues) hframework]

/-- No other declaration has the same name and number of parameters, in
whatever namespace it stands. -/
def Universe.IsOnlyOfName (u : Universe) (d : TypeDecl) : Prop :=
  ∀ e ∈ u.decls, e.header.name = d.header.name → e.header.arity = d.header.arity → e = d

instance (u : Universe) (d : TypeDecl) : Decidable (u.IsOnlyOfName d) :=
  inferInstanceAs (Decidable (∀ e ∈ u.decls, e.header.name = d.header.name →
    e.header.arity = d.header.arity → e = d))

/-! ## Looking a declaration up -/

namespace Snapshot

section Declared

variable {s : Snapshot} {d : TypeDecl} (hvalid : s.validate = .ok ()) (hd : d ∈ s.types)
include hvalid hd

theorem header_issues_eq_nil : d.header.issues = [] :=
  (List.append_eq_nil_iff.mp (issues_eq_nil_of_mem_types hvalid hd)).1

/-- The qualified name of a declaration denotes it. -/
theorem resolve?_qualifiedName :
    s.toUniverse.resolve? d.header.qualifiedName d.header.arity = some d := by
  have hfound : s.toUniverse.qualified? d.header.qualifiedName d.header.arity = some d :=
    (Universe.qualified?_eq_some_iff (slots_nodup hvalid)).mpr ⟨hd, rfl⟩
  rw [Universe.resolve?, hfound]

/-- Without its namespace the name of a declaration denotes it if the
declaration has no namespace, or if no other one has the name. -/
theorem resolve?_name_iff :
    s.toUniverse.resolve? d.header.name d.header.arity = some d ↔
      d.header.scope = none ∨ s.toUniverse.IsOnlyOfName d := by
  have hdot : d.header.name.toList.contains '.' = false := by
    have hname := TypeHeader.check_name (header_issues_eq_nil hvalid hd)
    simpa using Identifier.dot_not_mem_of_check hname
  cases hscope : d.header.scope with
  | none =>
    have hname : d.header.qualifiedName = d.header.name := by
      simp [TypeHeader.qualifiedName, hscope]
    have hfound := resolve?_qualifiedName hvalid hd
    rw [hname] at hfound
    simp [hfound]
  | some scope =>
    simp only [reduceCtorEq, false_or]
    unfold Universe.resolve?
    cases hqualified : s.toUniverse.qualified? d.header.name d.header.arity with
    | some e =>
      obtain ⟨he, hslot⟩ := Universe.mem_and_slot_of_qualified? hqualified
      obtain ⟨hpath, harity⟩ := Prod.mk.inj hslot
      -- Another type has the name as its qualified name: it has no namespace.
      have hescope : e.header.scope = none := by
        by_contra hsome
        have hissues := header_issues_eq_nil hvalid he
        have hmem := (TypeHeader.dot_mem_qualifiedName_iff hissues).mpr hsome
        rw [hpath] at hmem
        simp [hmem] at hdot
      have hne : e ≠ d := by
        rintro rfl
        simp [hescope] at hscope
      have hename : e.header.name = d.header.name := by
        rw [← hpath, TypeHeader.qualifiedName, hescope]
      constructor
      · intro h
        exact absurd (Option.some.inj h) hne
      · intro honly
        exact absurd (honly e he hename harity) hne
    | none =>
      simp only [hdot, Bool.false_eq_true, if_false]
      rw [Universe.simple?_eq_some_iff (List.Nodup.of_map _ (slots_nodup hvalid))]
      constructor
      · rintro ⟨-, -, honly⟩
        exact honly
      · intro honly
        exact ⟨hd, ⟨rfl, rfl⟩, honly⟩

/-- If its name alone does not denote a declaration, nothing is put in front of
that name. -/
theorem qualify_name (h : s.toUniverse.resolve? d.header.name d.header.arity ≠ some d) :
    s.toUniverse.qualify d.header.name d.header.arity = d.header.name := by
  unfold Universe.qualify
  unfold Universe.resolve? at h ⊢
  cases hqualified : s.toUniverse.qualified? d.header.name d.header.arity with
  | some e =>
    obtain ⟨-, hslot⟩ := Universe.mem_and_slot_of_qualified? hqualified
    exact (Prod.mk.inj hslot).1
  | none =>
    rw [hqualified] at h
    cases hdot : d.header.name.toList.contains '.' with
    | true => rfl
    | false =>
      rw [hdot] at h
      cases hsimple : s.toUniverse.simple? d.header.name d.header.arity with
      | none => rfl
      | some e =>
        obtain ⟨-, -, honly⟩ :=
          (Universe.simple?_eq_some_iff (List.Nodup.of_map _ (slots_nodup hvalid))).mp hsimple
        obtain rfl : d = e := honly d hd rfl rfl
        exact absurd hsimple h

/-! ## The reference of a declaration -/

variable (hframework : ∀ p : Predefined, d.header.qualifiedName ≠ p.framework)
include hframework

theorem canonical_typeRef :
    s.toUniverse.canonical d.typeRef = .named d.header.qualifiedName
      (s.toUniverse.canonicals (d.header.params.map TypeRef.ofPath)) := by
  have hissues := header_issues_eq_nil hvalid hd
  have hqualify : s.toUniverse.qualify d.header.qualifiedName d.header.arity =
      d.header.qualifiedName := by
    rw [Universe.qualify, resolve?_qualifiedName hvalid hd]
  rw [TypeDecl.typeRef, TypeHeader.typeRef_eq hissues hframework, Universe.canonical,
    d.header.length_args, hqualify, TypeRef.generic,
    TypeRef.normalPath_eq_self (TypeHeader.isPlain_qualifiedName hissues) hframework]

theorem find?_canonical_typeRef :
    s.toUniverse.find? (s.toUniverse.canonical d.typeRef) = some d := by
  rw [canonical_typeRef hvalid hd hframework, Universe.find?, Universe.canonicals_eq_map,
    List.length_map, List.length_map]
  exact resolve?_qualifiedName hvalid hd

/-- The two ways to write a type inside its own declaration denote one type
exactly if they are one, or if no other declaration shares the name. -/
theorem canonical_eq_iff_of_isNamedBy {t : TypeRef} (ht : d.header.isNamedBy t = true) :
    s.toUniverse.canonical t = s.toUniverse.canonical d.typeRef ↔
      t = d.typeRef ∨ s.toUniverse.IsOnlyOfName d := by
  have hissues := header_issues_eq_nil hvalid hd
  have hname := TypeHeader.check_name hissues
  by_cases hown : t = d.typeRef
  · simp [hown]
  · have hshort : t = .named d.header.name (d.header.params.map TypeRef.ofPath) := by
      rw [TypeHeader.isNamedBy, Bool.or_eq_true, beq_iff_eq, beq_iff_eq] at ht
      exact ht.resolve_left hown
    have hscope : d.header.scope ≠ none := by
      intro hnone
      refine hown ?_
      rw [hshort, TypeDecl.typeRef, TypeHeader.typeRef_eq hissues hframework,
        TypeHeader.qualifiedName, hnone]
    rw [canonical_typeRef hvalid hd hframework, hshort, Universe.canonical,
      d.header.length_args, TypeRef.generic, TypeRef.named.injEq]
    simp only [and_true]
    constructor
    · intro hpath
      refine .inr (((resolve?_name_iff hvalid hd).mp ?_).resolve_left hscope)
      by_contra hother
      -- What is looked up in vain stays without a dot; the qualified name has one.
      rw [qualify_name hvalid hd hother] at hpath
      refine TypeRef.dot_not_mem_normalPath (Identifier.isPlain_of_check hname)
        (Identifier.dot_not_mem_of_check hname) ?_
      rw [hpath]
      exact (TypeHeader.dot_mem_qualifiedName_iff hissues).mpr hscope
    · rintro (heq | honly)
      · exact absurd (hshort.trans heq) hown
      · rw [Universe.qualify, (resolve?_name_iff hvalid hd).mpr (.inr honly)]
        exact TypeRef.normalPath_eq_self (TypeHeader.isPlain_qualifiedName hissues) hframework

end Declared

end Snapshot

/-! ## Operators -/

/-- An operator that one of two types declares is one of theirs exactly if its
sides are these types; otherwise its kind is there only if another operator
provides it. -/
theorem Universe.has_byOperators_iff_of_mem {u : Universe} {d : TypeDecl}
    {source target : TypeRef} {op : ConversionOperator} (hop : op ∈ d.operators)
    (hfound : u.find? (u.canonical source) = some d ∨ u.find? (u.canonical target) = some d) :
    (u.byOperators source target).has op.kind = true ↔
      (u.canonical op.parameter = u.canonical source ∧
          u.canonical op.returns = u.canonical target) ∨
        ∃ other ∈ u.operators (u.canonical source) (u.canonical target),
          other ≠ op ∧ other.kind = op.kind := by
  rw [byOperators, declared, Conversions.has_ofOperators_iff]
  constructor
  · rintro ⟨other, hother, hkind⟩
    by_cases heq : other = op
    · rw [heq] at hother
      exact .inl (mem_operators_iff.mp hother).2
    · exact .inr ⟨other, hother, heq, hkind⟩
  · rintro (hsides | ⟨other, hother, -, hkind⟩)
    · exact ⟨op, mem_operators_iff.mpr ⟨⟨d, hfound, hop⟩, hsides⟩, rfl⟩
    · exact ⟨other, hother, hkind⟩

namespace Snapshot

/-- In a valid snapshot an operator takes part in the conversions of the type
that declares it exactly if the operator writes that type in full, or if no
other declaration shares the type's name, or if another operator of the same
kind converts between the same types. -/
theorem has_byOperators_own_iff {s : Snapshot} {d : TypeDecl} (hvalid : s.validate = .ok ())
    (hd : d ∈ s.types) (hframework : ∀ p : Predefined, d.header.qualifiedName ≠ p.framework)
    {op : ConversionOperator} (hop : op ∈ d.operators) :
    (d.header.isNamedBy op.parameter = true →
      ((s.toUniverse.byOperators d.typeRef op.returns).has op.kind = true ↔
        (op.parameter = d.typeRef ∨ s.toUniverse.IsOnlyOfName d) ∨
          ∃ other ∈ s.toUniverse.operators (s.toUniverse.canonical d.typeRef)
              (s.toUniverse.canonical op.returns),
            other ≠ op ∧ other.kind = op.kind)) ∧
    (d.header.isNamedBy op.returns = true →
      ((s.toUniverse.byOperators op.parameter d.typeRef).has op.kind = true ↔
        (op.returns = d.typeRef ∨ s.toUniverse.IsOnlyOfName d) ∨
          ∃ other ∈ s.toUniverse.operators (s.toUniverse.canonical op.parameter)
              (s.toUniverse.canonical d.typeRef),
            other ≠ op ∧ other.kind = op.kind)) := by
  have hfind := find?_canonical_typeRef hvalid hd hframework
  constructor
  · intro hnamed
    rw [Universe.has_byOperators_iff_of_mem hop (.inl hfind),
      canonical_eq_iff_of_isNamedBy hvalid hd hframework hnamed]
    simp only [and_true]
  · intro hnamed
    rw [Universe.has_byOperators_iff_of_mem hop (.inr hfind),
      canonical_eq_iff_of_isNamedBy hvalid hd hframework hnamed]
    simp only [true_and]

/-! ## Two types of one name -/

/-- A length in metres, which its own operator calls by the name alone. -/
def geoMeters : TypeDecl :=
  ⟨⟨some "Geo", "Meters", .structType, []⟩, [], none,
    [⟨.implicit, .named "Meters" [], .named "double" []⟩]⟩

/-- Another type of that name, outside of all namespaces. -/
def globalMeters : TypeDecl := ⟨⟨none, "Meters", .structType, []⟩, [], none, []⟩

/-- A program that declares the length and some other types. -/
def meters (others : List TypeDecl) : Snapshot := ⟨geoMeters :: others, []⟩

theorem qualifiedName_geoMeters_ne (p : Predefined) :
    geoMeters.header.qualifiedName ≠ p.framework := by
  cases p <;> decide

/-- Where there is no other type of its name, the length converts to numbers. -/
theorem has_byOperators_meters :
    (meters []).validate = .ok () ∧ geoMeters ∈ (meters []).types ∧
      (∀ p : Predefined, geoMeters.header.qualifiedName ≠ p.framework) ∧
      geoMeters.header.isNamedBy (.named "Meters" []) = true ∧
      ((meters []).toUniverse.byOperators geoMeters.typeRef (.named "double" [])).has .implicit =
        true := by
  have hvalid : (meters []).validate = .ok () := by rfl
  have hmem : geoMeters ∈ (meters []).types := List.mem_cons_self
  have hnamed : geoMeters.header.isNamedBy (.named "Meters" []) = true := by decide
  have honly : (meters []).toUniverse.IsOnlyOfName geoMeters := by decide
  have hop : ⟨.implicit, .named "Meters" [], .named "double" []⟩ ∈ geoMeters.operators :=
    List.mem_cons_self
  have howned := (has_byOperators_own_iff hvalid hmem qualifiedName_geoMeters_ne hop).1 hnamed
  exact ⟨hvalid, hmem, qualifiedName_geoMeters_ne, hnamed, howned.mpr (.inl (.inr honly))⟩

/-- Beside a type of the same name without a namespace the operator is lost,
though the snapshot is valid. -/
theorem not_has_byOperators_meters :
    (meters [globalMeters]).validate = .ok () ∧ geoMeters ∈ (meters [globalMeters]).types ∧
      (∀ p : Predefined, geoMeters.header.qualifiedName ≠ p.framework) ∧
      ⟨.implicit, .named "Meters" [], .named "double" []⟩ ∈ geoMeters.operators ∧
      geoMeters.header.isNamedBy (.named "Meters" []) = true ∧
      ((meters [globalMeters]).toUniverse.byOperators geoMeters.typeRef
        (.named "double" [])).has .implicit = false := by
  have hvalid : (meters [globalMeters]).validate = .ok () := by rfl
  exact ⟨hvalid, List.mem_cons_self, qualifiedName_geoMeters_ne, List.mem_cons_self, by decide,
    by decide +kernel⟩

end Snapshot

end AccessorGen
