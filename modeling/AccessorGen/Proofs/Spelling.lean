import AccessorGen.Generation
import AccessorGen.Proofs.Agreement
import AccessorGen.Proofs.Grouping

set_option autoImplicit false

/-!
# Spelling

Types may be spelled in several ways.  Two snapshots that differ only in how
they spell types have the same canonical form, and every field then has the same
outcome in both, up to the spelling of types again.

The directive, the name and the policy of an accessor are read without looking
at types at all: respelling the types first or afterwards comes to the same.
What does look at types, the conversions between them, looks at canonical forms.
-/

namespace AccessorGen

/-! ## Respelling the types of a record -/

section MapTypes

variable (f : TypeRef → TypeRef)

/-- The literal with another spelling of its type, if it is one. -/
def Literal.mapType : Literal → Literal
  | .type t => .type (f t)
  | .enum l => .enum l
  | .bool b => .bool b

/-- The attribute with another spelling of the types among its arguments. -/
def Attribute.mapTypes (a : Attribute) : Attribute := ⟨a.name, a.args.map (Literal.mapType f)⟩

/-- The field with another spelling of its type and of those in its
attributes. -/
def Field.mapTypes (x : Field) : Field :=
  ⟨x.ident, f x.type, x.container, x.attributes.map (Attribute.mapTypes f), x.location⟩

/-- The passage with another spelling of the type it casts to. -/
def Passage.mapType : Passage → Passage
  | .direct => .direct
  | .cast t => .cast (f t)

/-- The setter with another spelling of the type it casts to. -/
def Setter.mapType (s : Setter) : Setter := ⟨s.isPrivate, s.passage.mapType f⟩

/-- The accessor with another spelling of its types. -/
def Accessor.mapTypes (a : Accessor) : Accessor :=
  ⟨a.name, a.field, f a.type, f a.fieldType, a.policy, a.getter.mapType f,
    a.setter.map (Setter.mapType f)⟩

namespace Directive

/-- The argument with another spelling of its type, if it is one. -/
def Argument.mapType : Argument → Argument
  | .type t => .type (f t)
  | .policy p => .policy p
  | .bool b => .bool b
  | .otherEnum => .otherEnum

/-- The request with another spelling of its target. -/
def Request.mapTarget (r : Request) : Request := { r with target := f r.target }

/-- The annotated field with another spelling of its types. -/
def Annotated.mapTypes (a : Annotated) : Annotated := ⟨a.field.mapTypes f, a.directive.mapTypes f⟩

/-! ## Reading directives -/

theorem Argument.ofLiteral_mapType (l : Literal) :
    Argument.ofLiteral (l.mapType f) = (Argument.ofLiteral l).map (Argument.mapType f) := by
  cases l with
  | type t => rfl
  | bool b => rfl
  | enum l =>
    simp only [Literal.mapType, Argument.ofLiteral]
    split
    · split <;> rfl
    · rfl

theorem mapM_ofLiteral_mapType (literals : List Literal) :
    (literals.map (Literal.mapType f)).mapM Argument.ofLiteral =
      (literals.mapM Argument.ofLiteral).map (List.map (Argument.mapType f)) := by
  induction literals with
  | nil => rfl
  | cons l rest ih =>
    rw [List.map_cons, List.mapM_cons, List.mapM_cons, Argument.ofLiteral_mapType, ih]
    cases Argument.ofLiteral l with
    | error e => rfl
    | ok a =>
      cases rest.mapM Argument.ofLiteral with
      | error e => rfl
      | ok args => rfl

theorem map_kind_mapType (args : List Argument) :
    (args.map (Argument.mapType f)).map (·.kind) = args.map (·.kind) := by
  rw [List.map_map]
  refine List.map_congr_left ?_
  intro a _
  cases a <;> rfl

theorem Request.apply_mapType (shape : Shape) (r : Request) (a : Argument) :
    (r.mapTarget f).apply shape (a.mapType f) = (r.apply shape a).mapTarget f := by
  cases a with
  | type t => rfl
  | policy p => rfl
  | otherEnum => rfl
  | bool b =>
    simp only [Argument.mapType, Request.apply]
    split <;> rfl

theorem Request.foldl_apply_mapType (shape : Shape) (args : List Argument) (r : Request) :
    (args.map (Argument.mapType f)).foldl (Request.apply shape) (r.mapTarget f) =
      (args.foldl (Request.apply shape) r).mapTarget f := by
  induction args generalizing r with
  | nil => rfl
  | cons a rest ih => rw [List.map_cons, List.foldl_cons, List.foldl_cons, apply_mapType, ih]

/-- What a directive asks for is settled without looking at types. -/
theorem Request.ofLiterals_mapType (literals : List Literal) (declared : TypeRef) :
    Request.ofLiterals (literals.map (Literal.mapType f)) (f declared) =
      (Request.ofLiterals literals declared).map (Request.mapTarget f) := by
  unfold Request.ofLiterals
  rw [List.length_map, mapM_ofLiteral_mapType]
  split
  · rfl
  · cases literals.mapM Argument.ofLiteral with
    | error e => rfl
    | ok args =>
      simp only [Except.map, bind, Except.bind, map_kind_mapType]
      cases shape? (args.map (·.kind)) with
      | none => rfl
      | some shape =>
        exact congrArg Except.ok
          (foldl_apply_mapType f shape args ⟨declared, .publicGet, false, shape.name⟩)

theorem Annotated.request_mapTypes (a : Annotated) :
    (a.mapTypes f).request = a.request.map (Request.mapTarget f) := by
  have hcontainer : (a.mapTypes f).field.container = a.field.container := rfl
  rw [Annotated.request, Annotated.request, hcontainer]
  split
  · exact Request.ofLiterals_mapType f a.directive.args a.field.type
  · rfl

/-- Which fields are annotated, and by which attribute, is settled without
looking at types. -/
theorem annotated?_mapTypes (baseName : String) (x : Field) :
    annotated? baseName (x.mapTypes f) = (annotated? baseName x).map (Annotated.mapTypes f) := by
  have hnamed : isNamedBy baseName ∘ Attribute.mapTypes f = isNamedBy baseName := by
    funext a
    simp only [Function.comp_apply, isNamedBy, Attribute.simpleName, Attribute.mapTypes]
  have hfind : find? baseName (x.mapTypes f) = (find? baseName x).map (Attribute.mapTypes f) := by
    simp only [find?, Field.mapTypes, List.find?_map, hnamed]
  rw [annotated?, annotated?, hfind, Option.map_map, Option.map_map]
  rfl

end Directive

/-- The accessor of a field is laid out without looking at types. -/
theorem Accessor.ofField_mapTypes (name : String) (x : Field) (target : TypeRef)
    (policy : AccessPolicy) (conversion : Conversion) :
    Accessor.ofField name (x.mapTypes f) (f target) policy conversion =
      (Accessor.ofField name x target policy conversion).mapTypes f := by
  cases conversion with
  | identity =>
    cases hpolicy : policy.mutability <;>
      simp [ofField, setterFor, hpolicy, mapTypes, Field.mapTypes, Conversion.needsCast,
        Passage.mapType, Setter.mapType]
  | cast forward backward =>
    cases hpolicy : policy.mutability <;>
      simp [ofField, setterFor, hpolicy, mapTypes, Field.mapTypes, Conversion.needsCast,
        Passage.mapType, Setter.mapType]

end MapTypes

/-! ## Snapshots up to spelling -/

/-- Lists with one image stand side by side. -/
theorem forall₂_of_map_eq {α β γ : Type} {f : α → γ} {g : β → γ} {l : List α} {l' : List β}
    (h : l.map f = l'.map g) : List.Forall₂ (fun a b => f a = g b) l l' := by
  have hmaps : List.Forall₂ Eq (l.map f) (l'.map g) := by
    rw [List.forall₂_eq_eq_eq]
    exact h
  exact List.forall₂_map_right_iff.mp (List.forall₂_map_left_iff.mp hmaps)

/-- Lists that stand side by side have one image under maps that agree there. -/
theorem map_eq_of_forall₂ {α β γ : Type} {R : α → β → Prop} {f : α → γ} {g : β → γ}
    (hfg : ∀ a b, R a b → f a = g b) {l : List α} {l' : List β} (h : List.Forall₂ R l l') :
    l.map f = l'.map g := by
  induction h with
  | nil => rfl
  | cons hab _ ih => rw [List.map_cons, List.map_cons, hfg _ _ hab, ih]

/-- The declaration with its types in canonical form.  The underlying type of an
enum is left out, since no conversion asks which one it is. -/
def TypeDecl.canonical (u : Universe) (d : TypeDecl) : TypeDecl :=
  ⟨d.header, d.bases.map u.canonical, none, d.operators.map (·.mapTypes u.canonical)⟩

/-- The snapshot with its types in canonical form.  Snapshots with one canonical
form list the same headers and the same fields, in the same order, and differ
only in how they spell types. -/
def Snapshot.canonical (s : Snapshot) : Snapshot :=
  ⟨s.types.map (TypeDecl.canonical s.toUniverse),
    s.fields.map (Field.mapTypes s.toUniverse.canonical)⟩

theorem TypeDecl.agree_of_canonical_eq {u v : Universe} {d e : TypeDecl}
    (h : d.canonical u = e.canonical v) : TypeDecl.Agree u v d e := by
  obtain ⟨hheader, hbases, -, hoperators⟩ := TypeDecl.mk.inj h
  refine ⟨hheader, ?_, ?_⟩
  · intro p
    rw [hbases]
  · intro op
    rw [hoperators]

/-- Snapshots with one canonical form declare the same types. -/
theorem Snapshot.agree_of_canonical_eq {s s' : Snapshot} (h : s.canonical = s'.canonical) :
    s.toUniverse.Agree s'.toUniverse := by
  have htypes : List.Forall₂ (fun d e => d.canonical s.toUniverse = e.canonical s'.toUniverse)
      s.types s'.types := forall₂_of_map_eq (congrArg Snapshot.types h)
  exact Universe.Agree.of_forall₂ (fun _ _ => rfl)
    (htypes.imp fun _ _ => TypeDecl.agree_of_canonical_eq)

/-- What comes of a field, up to the spelling of types: the accessor with its
types in canonical form, and the codes of the diagnostics. -/
def Outcome.canonical (u : Universe) (o : Outcome) : Option Accessor × List DiagnosticCode :=
  (o.accessor?.map (Accessor.mapTypes u.canonical), o.diagnostics.map (·.code))

theorem Outcome.canonical_skipped (u : Universe) (reason : Diagnostic) :
    (skipped reason).canonical u = (none, [reason.code]) := rfl

/-- Annotated fields that differ in the spelling of types have outcomes that
differ in the spelling of types. -/
theorem Directive.Annotated.outcome_canonical_eq (baseName : String) {u v : Universe}
    (h : u.Agree v) {a b : Annotated} (hab : a.mapTypes u.canonical = b.mapTypes v.canonical) :
    (a.outcome baseName u).canonical u = (b.outcome baseName v).canonical v := by
  have hfield : a.field.mapTypes u.canonical = b.field.mapTypes v.canonical :=
    congrArg Annotated.field hab
  obtain ⟨hident, htype, -, -, hlocation⟩ := Field.mk.inj hfield
  have hname : a.accessorName = b.accessorName := by
    simp only [accessorName, hident, hlocation]
  have hrequest : a.request.map (Request.mapTarget u.canonical) =
      b.request.map (Request.mapTarget v.canonical) := by
    rw [← request_mapTypes, hab, request_mapTypes]
  unfold outcome
  cases ha : a.request with
  | error fault =>
    cases hb : b.request with
    | error fault' => simp only [Outcome.canonical_skipped, Diagnostic.ofReason]
    | ok r' =>
      rw [ha, hb] at hrequest
      cases hrequest
  | ok r =>
    cases hb : b.request with
    | error fault' =>
      rw [ha, hb] at hrequest
      cases hrequest
    | ok r' =>
      rw [ha, hb] at hrequest
      have hr : r.mapTarget u.canonical = r'.mapTarget v.canonical := Except.ok.inj hrequest
      obtain ⟨htarget, hpolicy, hsetter, -⟩ := Request.mk.inj hr
      have heffective : r.effectivePolicy = r'.effectivePolicy := by
        simp only [Request.effectivePolicy, hpolicy, hsetter]
      simp only [h.relate_eq htype htarget, hname]
      cases v.relate b.field.type r'.target with
      | error e => simp only [Except.mapError, Outcome.canonical_skipped, Diagnostic.ofNoConversion]
      | ok conversion =>
        simp only [Except.mapError, Outcome.canonical, Outcome.accessor?, Outcome.diagnostics,
          Option.map_some, ← Accessor.ofField_mapTypes, hfield, htarget, heffective]

namespace Settings

/-- What comes of any field of a snapshot, up to the spelling of types; nothing
comes of a field without the directive. -/
def fieldOutcome? (settings : Settings) (s : Snapshot) (x : Field) :
    Option (Option Accessor × List DiagnosticCode) :=
  (Directive.annotated? settings.baseName x).map fun a =>
    (settings.outcome s a).canonical s.toUniverse

theorem fieldOutcome?_eq (settings : Settings) {s s' : Snapshot}
    (h : s.canonical = s'.canonical) {x y : Field}
    (hxy : x.mapTypes s.toUniverse.canonical = y.mapTypes s'.toUniverse.canonical) :
    settings.fieldOutcome? s x = settings.fieldOutcome? s' y := by
  have hannotated : (Directive.annotated? settings.baseName x).map
        (Directive.Annotated.mapTypes s.toUniverse.canonical) =
      (Directive.annotated? settings.baseName y).map
        (Directive.Annotated.mapTypes s'.toUniverse.canonical) := by
    rw [← Directive.annotated?_mapTypes, hxy, Directive.annotated?_mapTypes]
  unfold fieldOutcome?
  cases hx : Directive.annotated? settings.baseName x with
  | none =>
    cases hy : Directive.annotated? settings.baseName y with
    | none => rw [Option.map_none, Option.map_none]
    | some b =>
      rw [hx, hy] at hannotated
      cases hannotated
  | some a =>
    cases hy : Directive.annotated? settings.baseName y with
    | none =>
      rw [hx, hy] at hannotated
      cases hannotated
    | some b =>
      rw [hx, hy] at hannotated
      have houtcome := Directive.Annotated.outcome_canonical_eq settings.baseName
        (Snapshot.agree_of_canonical_eq h) (Option.some.inj hannotated)
      rw [Option.map_some, Option.map_some, outcome, outcome, houtcome]

/-- What comes of every field, with the header of the type it belongs to. -/
def fieldOutcomes (settings : Settings) (s : Snapshot) :
    List (TypeHeader × Option (Option Accessor × List DiagnosticCode)) :=
  s.fields.map fun x => (x.container, settings.fieldOutcome? s x)

theorem fieldOutcomes_eq (settings : Settings) {s s' : Snapshot}
    (h : s.canonical = s'.canonical) : settings.fieldOutcomes s = settings.fieldOutcomes s' := by
  have hfields : s.fields.map (Field.mapTypes s.toUniverse.canonical) =
      s'.fields.map (Field.mapTypes s'.toUniverse.canonical) := congrArg Snapshot.fields h
  refine map_eq_of_forall₂ ?_ (forall₂_of_map_eq hfields)
  intro x y hxy
  obtain ⟨-, -, hcontainer, -, -⟩ := Field.mk.inj hxy
  rw [hcontainer, settings.fieldOutcome?_eq h hxy]

/-- The outcomes, up to the spelling of types, are those of the fields that have
the directive. -/
theorem map_outcomes (settings : Settings) (s : Snapshot) :
    (settings.outcomes s).map (fun (x, o) => (x.container, o.canonical s.toUniverse)) =
      (settings.fieldOutcomes s).filterMap fun (header, o) => o.map (header, ·) := by
  simp only [outcomes, annotated, Directive.annotatedFields, fieldOutcomes, fieldOutcome?,
    Directive.annotated?, List.map_filterMap, List.filterMap_map, Function.comp_def,
    Option.map_map]

theorem map_code_diagnostics (settings : Settings) (s : Snapshot) :
    (settings.generate s).diagnostics.map (·.code) =
      ((settings.fieldOutcomes s).filterMap fun (header, o) => o.map (header, ·)).flatMap
        fun (_, _, codes) => codes := by
  rw [← map_outcomes]
  simp only [generate, List.map_flatMap, List.flatMap_map, Outcome.canonical]

theorem map_fst_accessors (settings : Settings) (s : Snapshot) :
    (settings.accessors s).map Prod.fst =
      ((settings.fieldOutcomes s).filterMap fun (header, o) => o.map (header, ·)).filterMap
        fun (header, accessor?, _) => accessor?.map fun _ => header := by
  rw [← map_outcomes]
  simp only [accessors, List.map_filterMap, List.filterMap_map, Function.comp_def,
    Outcome.canonical, Option.map_map]

/-- Which units there are is settled by the outcomes up to spelling. -/
theorem map_hintName_sources (settings : Settings) (s : Snapshot) :
    (settings.generate s).sources.map (·.unit.hintName) =
      (((settings.accessors s).map Prod.fst).foldl
        (fun headers header => AccessorGroup.addHeader header headers) []).map
        (TypeHeader.hintName settings) := by
  rw [← AccessorGroup.headers_ofAccessors, List.map_map]
  simp only [generate, groups, List.map_map]
  rfl

/-- How types are spelled decides nothing but how they are spelled in what is
generated. -/
theorem generate_respelled (settings : Settings) {s s' : Snapshot}
    (h : s.canonical = s'.canonical) :
    s.fields.map (settings.fieldOutcome? s) = s'.fields.map (settings.fieldOutcome? s') ∧
      (settings.generate s).diagnostics.map (·.code) =
        (settings.generate s').diagnostics.map (·.code) ∧
      (settings.generate s).sources.map (·.unit.hintName) =
        (settings.generate s').sources.map (·.unit.hintName) := by
  have houtcomes := settings.fieldOutcomes_eq h
  refine ⟨?_, ?_, ?_⟩
  · have hsecond := congrArg (List.map Prod.snd) houtcomes
    simpa only [fieldOutcomes, List.map_map, Function.comp_def] using hsecond
  · rw [map_code_diagnostics, map_code_diagnostics, houtcomes]
  · rw [map_hintName_sources, map_hintName_sources, map_fst_accessors, map_fst_accessors,
      houtcomes]

end Settings

/-! ## Qualified and unqualified names -/

/-- A program in which the declared type `Geo.Meters` is written in a given
way, once in its own operator and twice in a field. -/
def Snapshot.depths (meters : TypeRef) : Snapshot :=
  ⟨[⟨⟨some "Geo", "Meters", .structType, []⟩, [], none,
      [⟨.implicit, meters, .named "double" []⟩]⟩],
    [⟨"depth", .arrayOf meters 1, ⟨some "Geo", "Lake", .classType, []⟩,
      [⟨"AutoProp", [.type (.named "object" [])]⟩], none⟩,
     ⟨"shore", .named "double" [], ⟨some "Geo", "Lake", .classType, []⟩,
      [⟨"AutoProp", [.type (.optional meters), .bool true]⟩], none⟩]⟩

/-- The only type of its name may be written without its namespace. -/
theorem generate_depths_respelled :
    let short := Snapshot.depths (.named "Meters" [])
    let long := Snapshot.depths (.named "Geo.Meters" [])
    short.canonical = long.canonical ∧
      short.fields.map (Settings.standard.fieldOutcome? short) =
        long.fields.map (Settings.standard.fieldOutcome? long) ∧
      (Settings.standard.generate short).diagnostics.map (·.code) =
        (Settings.standard.generate long).diagnostics.map (·.code) ∧
      (Settings.standard.generate short).sources.map (·.unit.hintName) =
        (Settings.standard.generate long).sources.map (·.unit.hintName) := by
  have hshort : (Snapshot.depths (.named "Meters" [])).canonical =
      Snapshot.depths (.named "Geo.Meters" []) := by rfl
  have hlong : (Snapshot.depths (.named "Geo.Meters" [])).canonical =
      Snapshot.depths (.named "Geo.Meters" []) := by rfl
  intro short long
  have hcanonical : short.canonical = long.canonical := hshort.trans hlong.symm
  exact ⟨hcanonical, Settings.generate_respelled .standard hcanonical⟩

end AccessorGen
