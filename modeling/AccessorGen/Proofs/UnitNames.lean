import AccessorGen.Proofs.Isolation
import AccessorGen.Proofs.Naming
import AccessorGen.Proofs.Validity

set_option autoImplicit false

/-!
# Names of units

The unit of a type is named after the namespace, the name and the number of
parameters of the type, which together are all there is to its identity.  In a
valid header the last dot ends the namespace, so the namespace can be read off a
unit's name.  The number of parameters can not: it stands behind an underscore,
and an identifier can end like that too.  So two types share a unit's name
exactly if one of them has no parameters and its name is spelled like the name
of the other with the number behind it.
-/

namespace AccessorGen

namespace Text

theorem toDigits_inj {m n : Nat} (h : Nat.toDigits 10 m = Nat.toDigits 10 n) : m = n := by
  rw [← Nat.ofDigitChars_toDigits (n := m) (by decide : 1 < 10) (by decide), h,
    Nat.ofDigitChars_toDigits (by decide) (by decide)]

end Text

namespace TypeHeader

/-! ## Two types with one unit's name -/

/-- The first type has no parameters, and its name is spelled like the name of
the second one with the number of its parameters behind it. -/
def Mimics (a b : TypeHeader) : Prop :=
  a.scope = b.scope ∧ a.arity = 0 ∧ 0 < b.arity ∧ a.name = b.name ++ "_" ++ toString b.arity

instance (a b : TypeHeader) : Decidable (a.Mimics b) := inferInstanceAs (Decidable (_ ∧ _))

theorem arityMark_of_arity_eq_zero {h : TypeHeader} (hzero : h.arity = 0) : h.arityMark = "" := by
  rw [arityMark, if_pos hzero]

theorem arityMark_of_arity_pos {h : TypeHeader} (hpos : 0 < h.arity) :
    h.arityMark = "_" ++ toString h.arity := by
  rw [arityMark, if_neg (Nat.ne_of_gt hpos)]

/-- Behind an underscore there are only digits. -/
theorem eq_underscore_or_isDigit_of_mem_arityMark {h : TypeHeader} {c : Char}
    (hc : c ∈ h.arityMark.toList) : c = '_' ∨ c.isDigit = true := by
  unfold arityMark at hc
  split at hc
  · simp at hc
  · rw [String.toList_append, Nat.toString_eq_repr, Nat.toList_repr] at hc
    rcases List.mem_append.mp hc with hc | hc
    · exact .inl (by simpa using hc)
    · exact .inr (Nat.isDigit_of_mem_toDigits (by decide) (by decide) hc)

theorem isPart_of_mem_arityMark {h : TypeHeader} {c : Char} (hc : c ∈ h.arityMark.toList) :
    Identifier.isPart c = true := by
  rcases eq_underscore_or_isDigit_of_mem_arityMark hc with rfl | hdigit
  · decide
  · exact Identifier.isPart_of_isDigit hdigit

theorem Mimics.marked_eq {a b : TypeHeader} (h : a.Mimics b) :
    a.name ++ a.arityMark = b.name ++ b.arityMark := by
  obtain ⟨-, ha, hb, hname⟩ := h
  rw [arityMark_of_arity_eq_zero ha, arityMark_of_arity_pos hb, String.append_empty, hname,
    String.append_assoc]

/-- A name and a number of parameters can be told apart if there are parameters:
the number holds no underscore. -/
theorem name_eq_of_marked_eq {a b : TypeHeader} (ha : 0 < a.arity) (hb : 0 < b.arity)
    (h : a.name ++ a.arityMark = b.name ++ b.arityMark) : a.name = b.name ∧ a.arity = b.arity := by
  rw [arityMark_of_arity_pos ha, arityMark_of_arity_pos hb] at h
  have hchars := congrArg String.toList h
  simp only [String.toList_append, Nat.toString_eq_repr, Nat.toList_repr] at hchars
  obtain ⟨hname, harity⟩ := Text.append_cons_inj Nat.underscore_not_in_toDigits
    Nat.underscore_not_in_toDigits hchars
  exact ⟨String.toList_inj.mp hname, Text.toDigits_inj harity⟩

/-- The names of two types in one namespace, each with the number of parameters
behind it, are equal if the types are the same, or if the number of parameters
of one is a part of the other's name. -/
theorem marked_eq_iff {a b : TypeHeader} (hscope : a.scope = b.scope) :
    a.name ++ a.arityMark = b.name ++ b.arityMark ↔
      a.identity = b.identity ∨ a.Mimics b ∨ b.Mimics a := by
  constructor
  · intro h
    rcases Nat.eq_zero_or_pos a.arity with ha | ha
    · rw [arityMark_of_arity_eq_zero ha, String.append_empty] at h
      rcases Nat.eq_zero_or_pos b.arity with hb | hb
      · rw [arityMark_of_arity_eq_zero hb, String.append_empty] at h
        left
        rw [identity, identity, hscope, h, ha, hb]
      · rw [arityMark_of_arity_pos hb, ← String.append_assoc] at h
        exact .inr (.inl ⟨hscope, ha, hb, h⟩)
    · rcases Nat.eq_zero_or_pos b.arity with hb | hb
      · rw [arityMark_of_arity_eq_zero hb, arityMark_of_arity_pos ha, String.append_empty,
          ← String.append_assoc] at h
        exact .inr (.inr ⟨hscope.symm, hb, ha, h.symm⟩)
      · obtain ⟨hname, harity⟩ := name_eq_of_marked_eq ha hb h
        left
        rw [identity, identity, hscope, hname, harity]
  · rintro (h | h | h)
    · have hname : a.name = b.name := congrArg TypeIdentity.name h
      have harity : a.arity = b.arity := congrArg TypeIdentity.arity h
      rw [arityMark, arityMark, hname, harity]
    · exact h.marked_eq
    · exact h.marked_eq.symm

theorem dot_not_mem_marked {h : TypeHeader} (hh : h.issues = []) :
    '.' ∉ (h.name ++ h.arityMark).toList := by
  rw [String.toList_append, List.mem_append, not_or]
  refine ⟨Identifier.dot_not_mem_of_check (check_name hh), ?_⟩
  intro hdot
  exact absurd (isPart_of_mem_arityMark hdot) (by decide +kernel)

/-- In front of the suffix the name of a unit holds characters of identifiers,
apart from `@` and dots. -/
theorem not_mem_stem {h : TypeHeader} {c : Char} (hh : h.issues = []) (hat : c ≠ '@')
    (hdot : c ≠ '.') (hpart : Identifier.isPart c = false) :
    c ∉ (h.qualifiedName ++ h.arityMark).toList := by
  rw [String.toList_append, List.mem_append, not_or]
  refine ⟨not_mem_qualifiedName hh hat hdot hpart, ?_⟩
  intro hmark
  exact Bool.eq_false_iff.mp hpart (isPart_of_mem_arityMark hmark)

theorem not_mem_hintName {s : Settings} {h : TypeHeader} {c : Char} (hh : h.issues = [])
    (hat : c ≠ '@') (hdot : c ≠ '.') (hpart : Identifier.isPart c = false)
    (hsuffix : c ∉ s.fileSuffix.toList) : c ∉ (h.hintName s).toList := by
  rw [hintName, String.toList_append, List.mem_append, not_or]
  exact ⟨not_mem_stem hh hat hdot hpart, hsuffix⟩

/-- Two valid headers share the name of their units exactly if they belong to
one type or the name of one mimics the other. -/
theorem hintName_eq_iff (s : Settings) {a b : TypeHeader} (ha : a.issues = [])
    (hb : b.issues = []) :
    a.hintName s = b.hintName s ↔ a.identity = b.identity ∨ a.Mimics b ∨ b.Mimics a := by
  rw [hintName, hintName, String.append_left_inj]
  constructor
  · intro h
    obtain ⟨hscope, hmarked⟩ :=
      scope_eq_of_qualified_eq (dot_not_mem_marked ha) (dot_not_mem_marked hb) h
    exact (marked_eq_iff hscope).mp hmarked
  · intro h
    have hscope : a.scope = b.scope := by
      rcases h with h | h | h
      · exact congrArg TypeIdentity.scope h
      · exact h.1
      · exact h.1.symm
    have hmarked := (marked_eq_iff hscope).mpr h
    unfold qualifiedName
    rw [hscope]
    cases b.scope with
    | none => exact hmarked
    | some scope => simp only [String.append_assoc, hmarked]

/-- Different valid types have different units' names exactly if none mimics
another. -/
theorem nodup_hintNames_iff (s : Settings) {headers : List TypeHeader}
    (hvalid : ∀ h ∈ headers, h.issues = []) (hnodup : (headers.map identity).Nodup) :
    (headers.map (hintName s)).Nodup ↔ ∀ a ∈ headers, ∀ b ∈ headers, ¬ a.Mimics b := by
  rw [List.nodup_map_iff_inj_on hnodup.of_map]
  constructor
  · intro hinj a ha b hb hmimics
    have hsame : a.hintName s = b.hintName s :=
      (hintName_eq_iff s (hvalid a ha) (hvalid b hb)).mpr (.inr (.inl hmimics))
    obtain rfl := hinj a ha b hb hsame
    obtain ⟨-, hzero, hpos, -⟩ := hmimics
    omega
  · intro hnone a ha b hb hsame
    rcases (hintName_eq_iff s (hvalid a ha) (hvalid b hb)).mp hsame with h | h | h
    · exact List.inj_on_of_nodup_map hnodup ha hb h
    · exact absurd h (hnone a ha b hb)
    · exact absurd h (hnone b hb a ha)

end TypeHeader

/-! ## The units of a snapshot -/

/-- A generated unit that is called as units of types are is not the one of the
directive. -/
theorem Directive.hintName_definition_ne (h : TypeHeader) :
    (Directive.definition .standard).hintName ≠ h.hintName .standard := by
  intro heq
  have hsuffix : ".Generated.cs".toList <:+ "AutoPropAttribute.cs".toList := by
    refine ⟨(h.qualifiedName ++ h.arityMark).toList, ?_⟩
    rw [← String.toList_append]
    exact congrArg String.toList heq.symm
  exact absurd hsuffix (by decide)

namespace Settings

variable (settings : Settings) {s : Snapshot}

theorem issues_of_mem_sources (hs : s.validate = .ok ()) {u : AccessorUnit}
    (hu : u ∈ (settings.generate s).sources) : u.header.issues = [] := by
  obtain ⟨g, hg, rfl⟩ := List.mem_map.mp hu
  have hmem := AccessorGroup.mem_of_mem_headers_ofAccessors (List.mem_map_of_mem hg)
  rw [accessors_eq_filterMap] at hmem
  obtain ⟨p, hp, hheader⟩ := List.mem_map.mp hmem
  obtain ⟨f, hf, hfp⟩ := List.mem_filterMap.mp hp
  have hcontainer : g.header = f.container := hheader.symm.trans (settings.fst_of_accessor? s hfp)
  have hissues := s.issues_eq_nil_of_mem_fields hs hf
  rw [Field.issues, List.append_eq_nil_iff, List.append_eq_nil_iff] at hissues
  exact (congrArg TypeHeader.issues hcontainer).trans hissues.1.2

/-- Under the standard settings the names of the units are the directive's and
those of the types. -/
theorem hintNames_units (s : Snapshot) :
    (Settings.standard.generate s).units.map (·.hintName) =
      (Directive.definition .standard).hintName ::
        ((Settings.standard.generate s).sources.map (·.header)).map (·.hintName .standard) := by
  have hsources : ∀ u ∈ (Settings.standard.generate s).sources,
      u.unit.hintName = u.header.hintName .standard := by
    intro u hu
    obtain ⟨g, -, rfl⟩ := List.mem_map.mp hu
    rfl
  rw [Generation.units, List.map_append, List.map_map, List.map_map]
  exact congrArg (_ :: ·) (List.map_congr_left hsources)

/-- Under the standard settings the units of a valid snapshot have names of
their own exactly if no type in it mimics another. -/
theorem nodup_hintNames_units_iff (hs : s.validate = .ok ()) :
    ((Settings.standard.generate s).units.map (·.hintName)).Nodup ↔
      ∀ u ∈ (Settings.standard.generate s).sources, ∀ v ∈ (Settings.standard.generate s).sources,
        ¬ u.header.Mimics v.header := by
  have hdefinition : (Directive.definition .standard).hintName ∉
      ((Settings.standard.generate s).sources.map (·.header)).map (·.hintName .standard) := by
    intro hmem
    obtain ⟨h, -, heq⟩ := List.mem_map.mp hmem
    exact Directive.hintName_definition_ne h heq.symm
  have hvalid : ∀ h ∈ (Settings.standard.generate s).sources.map (·.header), h.issues = [] := by
    intro h hh
    obtain ⟨u, hu, rfl⟩ := List.mem_map.mp hh
    exact Settings.standard.issues_of_mem_sources hs hu
  have hnodup : (((Settings.standard.generate s).sources.map (·.header)).map
      TypeHeader.identity).Nodup := by
    rw [List.map_map]
    exact Settings.standard.nodup_identities_sources s
  rw [hintNames_units, List.nodup_cons, TypeHeader.nodup_hintNames_iff .standard hvalid hnodup]
  simp only [hdefinition, not_false_eq_true, true_and, List.forall_mem_map]

end Settings

end AccessorGen
