import AccessorGen.Generation

set_option autoImplicit false

/-!
# Outcomes field by field

A generation looks at the fields of a snapshot one after the other.  What comes
of a field depends on the field and on the declared types, and on no other
field.  Accessors and diagnostics are those of the fields, in the order of the
fields.  A field with the directive on it has either an accessor or an error.

The only question that is asked about the declared types is how the type of a
field relates to the type of its accessor.  The latter is the field's own or an
argument of the directive.
-/

namespace AccessorGen

/-! ## The type of an accessor -/

namespace Directive

theorem Argument.eq_type_of_ofLiteral {l : Literal} {t : TypeRef}
    (h : Argument.ofLiteral l = .ok (.type t)) : l = .type t := by
  cases l with
  | type u =>
    have hu : Argument.type u = .type t := Except.ok.inj h
    rw [Argument.type.inj hu]
  | bool b => exact nomatch Except.ok.inj h
  | enum l =>
    simp only [Argument.ofLiteral] at h
    split at h
    · split at h <;> simp at h
    · simp at h

theorem mem_of_mapM_ofLiteral {literals : List Literal} {args : List Argument} {t : TypeRef}
    (h : literals.mapM Argument.ofLiteral = .ok args) (ht : .type t ∈ args) :
    .type t ∈ literals := by
  induction literals generalizing args with
  | nil =>
    obtain rfl : [] = args := Except.ok.inj h
    exact absurd ht List.not_mem_nil
  | cons l rest ih =>
    rw [List.mapM_cons] at h
    cases hl : Argument.ofLiteral l with
    | error e => simp [hl, bind, Except.bind] at h
    | ok arg =>
      cases hrest : rest.mapM Argument.ofLiteral with
      | error e => simp [hl, hrest, bind, Except.bind] at h
      | ok others =>
        rw [hl, hrest] at h
        obtain rfl : arg :: others = args := Except.ok.inj h
        rcases List.mem_cons.mp ht with rfl | ht
        · rw [Argument.eq_type_of_ofLiteral hl]
          exact List.mem_cons_self
        · exact List.mem_cons_of_mem l (ih hrest ht)

theorem Request.target_foldl_apply (shape : Shape) (args : List Argument) (r : Request) :
    (args.foldl (Request.apply shape) r).target = r.target ∨
      .type (args.foldl (Request.apply shape) r).target ∈ args := by
  induction args generalizing r with
  | nil => exact .inl rfl
  | cons arg rest ih =>
    rw [List.foldl_cons]
    -- A later argument may give the type; otherwise it is up to this one.
    rcases ih (r.apply shape arg) with h | h
    · rw [h]
      cases arg with
      | type t => exact .inr List.mem_cons_self
      | policy p => exact .inl rfl
      | bool b =>
        left
        simp only [Request.apply]
        split <;> rfl
      | otherEnum => exact .inl rfl
    · exact .inr (List.mem_cons_of_mem arg h)

/-- The type of an accessor is the field's own or an argument of the directive. -/
theorem Request.target_ofLiterals {literals : List Literal} {declared : TypeRef} {r : Request}
    (h : Request.ofLiterals literals declared = .ok r) :
    r.target = declared ∨ .type r.target ∈ literals := by
  unfold Request.ofLiterals at h
  split at h
  · simp at h
  · cases hargs : literals.mapM Argument.ofLiteral with
    | error e => simp [hargs, bind, Except.bind] at h
    | ok args =>
      simp only [hargs, bind, Except.bind] at h
      split at h
      · simp at h
      · rename_i shape _
        obtain rfl := Except.ok.inj h
        exact (Request.target_foldl_apply shape args _).imp_right (mem_of_mapM_ofLiteral hargs)

/-- The type that a directive asks for is the field's own or one of its
arguments. -/
theorem Annotated.target_eq_or_mem (a : Annotated) {r : Request} (h : a.request = .ok r) :
    r.target = a.field.type ∨ .type r.target ∈ a.directive.args := by
  unfold request at h
  split at h
  · exact Request.target_ofLiterals h
  · simp at h

/-- An outcome depends on the declared types only by how the two types of the
accessor relate. -/
theorem Annotated.outcome_congr (baseName : String) {u v : Universe} {a : Annotated}
    (h : ∀ r, a.request = .ok r →
      u.relate a.field.type r.target = v.relate a.field.type r.target) :
    a.outcome baseName u = a.outcome baseName v := by
  unfold outcome
  cases hrequest : a.request with
  | error fault => rfl
  | ok r => simp only [h r hrequest]

end Directive

/-! ## An accessor or an error -/

namespace Directive.Annotated

variable (baseName : String) (u : Universe) (a : Annotated)

/-- A name that is made up is no error. -/
theorem isError_of_accessorName {d : Diagnostic} (h : a.accessorName.2 = some d) :
    d.isError = false := by
  unfold accessorName at h
  split at h
  · simp at h
  · obtain rfl := Option.some.inj h
    rfl

/-- A field that is skipped has one error, and a field with an accessor has
none. -/
theorem countP_isError_outcome :
    (a.outcome baseName u).accessor?.toList.length +
      (a.outcome baseName u).diagnostics.countP (·.isError) = 1 := by
  unfold outcome
  split
  · rfl
  · split
    · rfl
    · cases hwarning : a.accessorName.2 with
      | none => simp [Outcome.accessor?, Outcome.diagnostics, hwarning]
      | some d =>
        have hd := a.isError_of_accessorName hwarning
        simp [Outcome.accessor?, Outcome.diagnostics, hwarning, hd]

theorem exists_isError_iff :
    (∃ d ∈ (a.outcome baseName u).diagnostics, d.isError = true) ↔
      (a.outcome baseName u).accessor? = none := by
  have hcount := a.countP_isError_outcome baseName u
  have hpos : (∃ d ∈ (a.outcome baseName u).diagnostics, d.isError = true) ↔
      0 < (a.outcome baseName u).diagnostics.countP (·.isError) := List.countP_pos_iff.symm
  rw [hpos]
  cases haccessor : (a.outcome baseName u).accessor? with
  | none =>
    rw [haccessor, Option.toList_none, List.length_nil] at hcount
    have : 0 < (a.outcome baseName u).diagnostics.countP (·.isError) := by omega
    exact iff_of_true this rfl
  | some accessor =>
    rw [haccessor, Option.toList_some, List.length_singleton] at hcount
    have : ¬ 0 < (a.outcome baseName u).diagnostics.countP (·.isError) := by omega
    exact iff_of_false this nofun

end Directive.Annotated

/-! ## One field after the other -/

namespace Settings

variable (settings : Settings) (s : Snapshot)

/-- What comes of a field, if the directive is on it. -/
def outcome? (f : Field) : Option Outcome :=
  (Directive.annotated? settings.baseName f).map (settings.outcome s)

/-- The accessor of a field, if it gets one, with the header of its container. -/
def accessor? (f : Field) : Option (TypeHeader × Accessor) :=
  ((settings.outcome? s f).bind Outcome.accessor?).map ((f.container, ·))

/-- The diagnostics about a field. -/
def fieldDiagnostics (f : Field) : List Diagnostic :=
  (settings.outcome? s f).toList.flatMap Outcome.diagnostics

theorem outcomes_eq_filterMap :
    settings.outcomes s = s.fields.filterMap fun f => (settings.outcome? s f).map ((f, ·)) := by
  rw [outcomes, annotated, Directive.annotatedFields, List.map_filterMap]
  refine congrArg (s.fields.filterMap ·) (funext fun f => ?_)
  simp only [outcome?, Directive.annotated?, Option.map_map]
  rfl

theorem accessors_eq_filterMap :
    settings.accessors s = s.fields.filterMap (settings.accessor? s) := by
  rw [accessors, outcomes_eq_filterMap, List.filterMap_filterMap]
  refine congrArg (s.fields.filterMap ·) (funext fun f => ?_)
  cases h : settings.outcome? s f with
  | none => simp [accessor?, h]
  | some o => simp [accessor?, h]

/-- An accessor comes with the header of its field's container. -/
theorem fst_of_accessor? {f : Field} {p : TypeHeader × Accessor}
    (h : settings.accessor? s f = some p) : p.1 = f.container := by
  obtain ⟨a, -, rfl⟩ := Option.map_eq_some_iff.mp h
  rfl

/-- The diagnostics are those about the fields, in the order of the fields. -/
theorem diagnostics_generate :
    (settings.generate s).diagnostics = s.fields.flatMap (settings.fieldDiagnostics s) := by
  rw [generate, outcomes_eq_filterMap]
  induction s.fields with
  | nil => rfl
  | cons f rest ih =>
    rw [List.flatMap_cons, ← ih]
    cases h : settings.outcome? s f with
    | none => simp [fieldDiagnostics, h]
    | some o => simp [fieldDiagnostics, h]

/-- What is generated depends on the declared types only by what comes of the
annotated fields. -/
theorem generate_congr_of_outcome {s' : Snapshot} (hfields : s.fields = s'.fields)
    (h : ∀ a ∈ settings.annotated s, settings.outcome s a = settings.outcome s' a) :
    settings.generate s = settings.generate s' := by
  have houtcomes : settings.outcomes s = settings.outcomes s' := by
    have hannotated : settings.annotated s' = settings.annotated s := by
      rw [annotated, annotated, hfields]
    rw [outcomes, outcomes, hannotated]
    exact List.map_congr_left fun a ha => by rw [h a ha]
  simp only [generate, groups, accessors, houtcomes]

/-- A field with the directive on it counts once, as an accessor or as an
error; any other field does not count. -/
theorem countP_isError_fieldDiagnostics (f : Field) :
    (settings.accessor? s f).toList.length +
        (settings.fieldDiagnostics s f).countP (·.isError) =
      if (Directive.find? settings.baseName f).isSome then 1 else 0 := by
  unfold accessor? fieldDiagnostics outcome? Directive.annotated?
  cases Directive.find? settings.baseName f with
  | none => rfl
  | some directive =>
    have hcount := Directive.Annotated.countP_isError_outcome settings.baseName s.toUniverse
      ⟨f, directive⟩
    simpa [outcome, Option.length_toList] using hcount

/-- There are as many accessors and errors as fields with the directive. -/
theorem length_accessors_add_errors :
    (settings.accessors s).length + (settings.generate s).diagnostics.countP (·.isError) =
      s.fields.countP fun f => (Directive.find? settings.baseName f).isSome := by
  rw [accessors_eq_filterMap, diagnostics_generate]
  induction s.fields with
  | nil => rfl
  | cons f rest ih =>
    have hfield := settings.countP_isError_fieldDiagnostics s f
    have hlength : ((f :: rest).filterMap (settings.accessor? s)).length =
        (settings.accessor? s f).toList.length +
          (rest.filterMap (settings.accessor? s)).length := by
      cases h : settings.accessor? s f with
      | none => simp [h]
      | some p => simp [h, Nat.add_comm]
    rw [hlength, List.flatMap_cons, List.countP_append, List.countP_cons, ← ih]
    omega

/-- There is an error exactly if some field with the directive has no
accessor. -/
theorem hasErrors_generate_iff :
    (settings.generate s).hasErrors = true ↔
      ∃ a ∈ settings.annotated s, (settings.outcome s a).accessor? = none := by
  simp only [Generation.hasErrors, List.any_eq_true, generate, outcomes, List.mem_flatMap,
    List.mem_map]
  constructor
  · rintro ⟨d, ⟨_, ⟨a, ha, rfl⟩, hd⟩, herror⟩
    exact ⟨a, ha, (a.exists_isError_iff settings.baseName s.toUniverse).mp ⟨d, hd, herror⟩⟩
  · rintro ⟨a, ha, hnone⟩
    obtain ⟨d, hd, herror⟩ := (a.exists_isError_iff settings.baseName s.toUniverse).mpr hnone
    exact ⟨d, ⟨_, ⟨a, ha, rfl⟩, hd⟩, herror⟩

end Settings

end AccessorGen
