import AccessorGen.Proofs.OwnName
import AccessorGen.Proofs.Outcomes

set_option autoImplicit false

/-!
# Unrelated declarations

A declaration can be added to a program that does not mention it, at any place
and whatever it derives from or converts to, and what is generated stays the
same.

A lookup finds the added declaration, or fails because of it, only for a path
that is the declaration's simple or qualified name.  No such path is ever looked
up.  The paths in play are those that are written, and what these denote: the
qualified names of the other declarations, and keywords in place of framework
names.  Base types and operators are only read off declarations that have been
found, so they add no paths but those that are written too.
-/

namespace AccessorGen

/-! ## Names that a type answers to -/

namespace TypeHeader

/-- The path is one of the two names by which the type of the header can be
meant. -/
def AnswersTo (h : TypeHeader) (path : String) : Prop := path = h.name ∨ path = h.qualifiedName

instance (h : TypeHeader) (path : String) : Decidable (h.AnswersTo path) :=
  inferInstanceAs (Decidable (_ ∨ _))

theorem qualifiedName_eq_name_of_dot_not_mem {h : TypeHeader} (hh : h.issues = [])
    (hdot : '.' ∉ h.qualifiedName.toList) : h.qualifiedName = h.name := by
  have hscope : h.scope = none := not_not.mp (mt (dot_mem_qualifiedName_iff hh).mpr hdot)
  rw [qualifiedName, hscope]

theorem AnswersTo.eq_name {h : TypeHeader} {path : String} (hh : h.issues = [])
    (hdot : '.' ∉ path.toList) (hpath : h.AnswersTo path) : path = h.name := by
  rcases hpath with hname | hqualified
  · exact hname
  · rw [hqualified] at hdot ⊢
    exact qualifiedName_eq_name_of_dot_not_mem hh hdot

/-- A type does not answer to the canonical path of a type of another name. -/
theorem not_answersTo_normalPath {h other : TypeHeader} (hh : h.issues = [])
    (hother : other.issues = []) (hkeyword : ∀ p : Predefined, h.name ≠ p.keyword)
    (hname : other.name ≠ h.name) : ¬ h.AnswersTo (TypeRef.normalPath other.qualifiedName) := by
  rw [TypeRef.normalPath_of_isPlain (isPlain_qualifiedName hother)]
  cases Predefined.ofName? other.qualifiedName with
  | some p =>
    intro hanswers
    exact hkeyword p (hanswers.eq_name hh p.dot_not_mem_keyword).symm
  | none =>
    rintro (hsimple | hqualified)
    · have hsimple : other.qualifiedName = h.name := hsimple
      have hdot : '.' ∉ other.qualifiedName.toList := by
        rw [hsimple]
        exact Identifier.dot_not_mem_of_check (check_name hh)
      exact hname ((qualifiedName_eq_name_of_dot_not_mem hother hdot).symm.trans hsimple)
    · exact hname ((qualifiedName_inj hother hh).mp hqualified).2

end TypeHeader

namespace TypeRef

/-- No path in the reference is a name of the type of the header. -/
def Avoids (t : TypeRef) (h : TypeHeader) : Prop := ∀ path ∈ t.paths, ¬ h.AnswersTo path

instance (t : TypeRef) (h : TypeHeader) : Decidable (t.Avoids h) :=
  inferInstanceAs (Decidable (∀ path ∈ t.paths, ¬ h.AnswersTo path))

/-- Every path in the reference is in normal spelling. -/
def HasNormalPaths (t : TypeRef) : Prop := ∀ path ∈ t.paths, normalPath path = path

instance (t : TypeRef) : Decidable t.HasNormalPaths :=
  inferInstanceAs (Decidable (∀ path ∈ t.paths, normalPath path = path))

end TypeRef

/-! ## Lookups beside an added declaration -/

namespace Universe

variable {before after : List TypeDecl} {d : TypeDecl}

theorem resolve?_insert {path : String} (h : ¬ d.header.AnswersTo path) (arity : Nat) :
    resolve? ⟨before ++ d :: after⟩ path arity = resolve? ⟨before ++ after⟩ path arity := by
  have hname : ¬ d.header.name = path := fun hpath => h (.inl hpath.symm)
  have hqualified : ¬ d.header.qualifiedName = path := fun hpath => h (.inr hpath.symm)
  simp [resolve?, qualified?, simple?, hname, hqualified]

theorem canonical_insert {t : TypeRef} (h : t.Avoids d.header) :
    canonical ⟨before ++ d :: after⟩ t = canonical ⟨before ++ after⟩ t := by
  refine canonical_congr fun path hpath arity => ?_
  rw [qualify, qualify, resolve?_insert (h path hpath)]

/-- A reference that avoids a type has a canonical form that does. -/
theorem avoids_canonical {u : Universe} {h : TypeHeader}
    (hu : ∀ e ∈ u.decls, ¬ h.AnswersTo (TypeRef.normalPath e.header.qualifiedName))
    {t : TypeRef} (ht : t.Avoids h) (hnormal : t.HasNormalPaths) : (u.canonical t).Avoids h := by
  intro path hpath
  obtain ⟨written, hwritten, arity, rfl⟩ := exists_of_mem_paths_canonical hpath
  unfold qualify
  split
  · rename_i e he
    exact hu e (mem_of_resolve? he)
  · rw [hnormal written hwritten]
    exact ht written hwritten

end Universe

/-- The types that are written in a declaration and looked up for it. -/
def TypeDecl.references (d : TypeDecl) : List TypeRef :=
  d.bases ++ d.operators.flatMap fun op => [op.parameter, op.returns]

theorem TypeDecl.operator_mem_references {d : TypeDecl} {op : ConversionOperator}
    (h : op ∈ d.operators) : op.parameter ∈ d.references ∧ op.returns ∈ d.references := by
  constructor
  · exact List.mem_append_right _ (List.mem_flatMap.mpr ⟨op, h, by simp⟩)
  · exact List.mem_append_right _ (List.mem_flatMap.mpr ⟨op, h, by simp⟩)

/-- Where a declaration is added that the others avoid, each of them still reads
the same. -/
theorem TypeDecl.agree_insert {before after : List TypeDecl} {d e : TypeDecl}
    (h : ∀ t ∈ e.references, t.Avoids d.header) :
    TypeDecl.Agree ⟨before ++ after⟩ ⟨before ++ d :: after⟩ e e := by
  have hsame : ∀ t ∈ e.references,
      Universe.canonical ⟨before ++ after⟩ t = Universe.canonical ⟨before ++ d :: after⟩ t :=
    fun t ht => (Universe.canonical_insert (h t ht)).symm
  refine ⟨rfl, ?_, ?_⟩
  · intro p
    rw [List.map_congr_left fun t ht => hsame t (List.mem_append_left _ ht)]
  · intro op
    have hoperators : e.operators.map (·.mapTypes (Universe.canonical ⟨before ++ after⟩)) =
        e.operators.map (·.mapTypes (Universe.canonical ⟨before ++ d :: after⟩)) := by
      refine List.map_congr_left fun op hop => ?_
      obtain ⟨hparameter, hreturns⟩ := operator_mem_references hop
      rw [ConversionOperator.mapTypes, ConversionOperator.mapTypes, hsame _ hparameter,
        hsame _ hreturns]
    rw [hoperators]

/-- On the types that avoid an added declaration the universes with and without
it agree. -/
theorem Universe.agreeOn_insert {before after : List TypeDecl} {d : TypeDecl}
    (hnames : ∀ e ∈ before ++ after,
      ¬ d.header.AnswersTo (TypeRef.normalPath e.header.qualifiedName))
    (hreferences : ∀ e ∈ before ++ after, ∀ t ∈ e.references,
      t.Avoids d.header ∧ t.HasNormalPaths) :
    AgreeOn ⟨before ++ after⟩ ⟨before ++ d :: after⟩ (·.Avoids d.header) where
  found := by
    intro t ht
    cases t with
    | named path args =>
      have hresolve : resolve? ⟨before ++ d :: after⟩ path args.length =
          resolve? ⟨before ++ after⟩ path args.length :=
        resolve?_insert (ht path List.mem_cons_self) args.length
      rw [find?, find?, hresolve]
      cases hfound : resolve? ⟨before ++ after⟩ path args.length with
      | none => exact .none
      | some e =>
        refine .some (TypeDecl.agree_insert fun t ht => ?_)
        exact (hreferences e (mem_of_resolve? hfound) t ht).1
    | array element rank => exact .none
    | nullable inner => exact .none
  parents := by
    intro t p _ hparent
    obtain ⟨e, hfound, base, hbase, rfl⟩ := isParent_iff.mp hparent
    have he : e ∈ before ++ after := by
      cases t with
      | named path args => exact mem_of_resolve? hfound
      | array element rank => simp at hfound
      | nullable inner => simp at hfound
    obtain ⟨havoids, hnormal⟩ := hreferences e he base (List.mem_append_left _ hbase)
    exact avoids_canonical hnames havoids hnormal
  inner := fun _ ht => ht

/-! ## Programs that do not mention a declaration -/

/-- The type, if the literal is one. -/
def Literal.type? : Literal → Option TypeRef
  | .type t => some t
  | _ => none

namespace Settings

/-- The types that are written in a snapshot and looked up for it: those in
declarations, those of fields, and the arguments of directives. -/
def references (settings : Settings) (s : Snapshot) : List TypeRef :=
  s.types.flatMap TypeDecl.references ++ s.fields.map (·.type) ++
    (settings.annotated s).flatMap fun a => a.directive.args.filterMap Literal.type?

/-- The declaration has nothing to do with the snapshot: its name is no keyword,
no declared type has that name, and neither the name nor the qualified name is
written anywhere. -/
structure IsUnrelated (settings : Settings) (s : Snapshot) (d : TypeDecl) : Prop where
  keyword : ∀ p : Predefined, d.header.name ≠ p.keyword
  name : ∀ e ∈ s.types, e.header.name ≠ d.header.name
  references : ∀ t ∈ settings.references s, t.Avoids d.header

theorem type_mem_references {settings : Settings} {s : Snapshot} {a : Directive.Annotated}
    (ha : a ∈ settings.annotated s) : a.field.type ∈ settings.references s := by
  obtain ⟨f, hf, hmarked⟩ := List.mem_filterMap.mp ha
  obtain ⟨directive, -, rfl⟩ := Option.map_eq_some_iff.mp hmarked
  exact List.mem_append_left _ (List.mem_append_right _ (List.mem_map_of_mem hf))

/-- The type of an accessor is written in the snapshot. -/
theorem target_mem_references {settings : Settings} {s : Snapshot} {a : Directive.Annotated}
    (ha : a ∈ settings.annotated s) {r : Directive.Request} (hr : a.request = .ok r) :
    r.target ∈ settings.references s := by
  rcases a.target_eq_or_mem hr with htarget | htarget
  · rw [htarget]
    exact type_mem_references ha
  · refine List.mem_append_right _ (List.mem_flatMap.mpr ⟨a, ha, ?_⟩)
    exact List.mem_filterMap.mpr ⟨_, htarget, rfl⟩

/-- A declaration that a program has nothing to do with can be added to it, at
any place and with any base types and operators: if the snapshot is valid with
it (and so it is without), and if its paths are in normal spelling, the same is
generated. -/
theorem generate_insert (settings : Settings) {before after : List TypeDecl} {d : TypeDecl}
    {fields : List Field} (hvalid : Snapshot.validate ⟨before ++ d :: after, fields⟩ = .ok ())
    (hnormal : ∀ t ∈ settings.references ⟨before ++ after, fields⟩, t.HasNormalPaths)
    (hunrelated : settings.IsUnrelated ⟨before ++ after, fields⟩ d) :
    settings.generate ⟨before ++ d :: after, fields⟩ =
      settings.generate ⟨before ++ after, fields⟩ := by
  have hnames : ∀ e ∈ before ++ after,
      ¬ d.header.AnswersTo (TypeRef.normalPath e.header.qualifiedName) := by
    intro e he
    have hmem : e ∈ before ++ d :: after := by
      rcases List.mem_append.mp he with he | he
      · exact List.mem_append_left _ he
      · exact List.mem_append_right _ (List.mem_cons_of_mem d he)
    have hd : d ∈ before ++ d :: after := List.mem_append_right _ List.mem_cons_self
    exact TypeHeader.not_answersTo_normalPath (Snapshot.header_issues_eq_nil hvalid hd)
      (Snapshot.header_issues_eq_nil hvalid hmem) hunrelated.keyword (hunrelated.name e he)
  have hagree : Universe.AgreeOn ⟨before ++ after⟩ ⟨before ++ d :: after⟩
      (·.Avoids d.header) := by
    refine Universe.agreeOn_insert hnames fun e he t ht => ?_
    have hmem : t ∈ settings.references ⟨before ++ after, fields⟩ :=
      List.mem_append_left _ (List.mem_append_left _ (List.mem_flatMap.mpr ⟨e, he, ht⟩))
    exact ⟨hunrelated.references t hmem, hnormal t hmem⟩
  symm
  refine settings.generate_congr_of_outcome ⟨before ++ after, fields⟩ rfl fun a ha => ?_
  refine Directive.Annotated.outcome_congr _ fun r hr => ?_
  have hfield := type_mem_references ha
  have htarget := target_mem_references ha hr
  refine hagree.relate_eq_self ?_ ?_ ?_ ?_
  · exact (Universe.canonical_insert (hunrelated.references _ hfield)).symm
  · exact (Universe.canonical_insert (hunrelated.references _ htarget)).symm
  · exact Universe.avoids_canonical hnames (hunrelated.references _ hfield) (hnormal _ hfield)
  · exact Universe.avoids_canonical hnames (hunrelated.references _ htarget) (hnormal _ htarget)

end Settings

/-! ## A harbour beside a route -/

namespace Coast

/-- A route is a trail, and it has a length. -/
def route : TypeDecl :=
  ⟨⟨some "Geo", "Route", .classType, []⟩, [.named "Trail" []], none,
    [⟨.explicit, .named "Route" [], .named "double" []⟩]⟩

/-- A trail is a route in its turn. -/
def trail : TypeDecl :=
  ⟨⟨some "Geo", "Trail", .classType, []⟩, [.named "Geo.Route" []], none, []⟩

/-- Nothing above mentions the harbour, but the harbour mentions the route. -/
def harbour : TypeDecl :=
  ⟨⟨some "Sea", "Harbour", .classType, []⟩, [.named "Route" [], .named "Harbour" []], none,
    [⟨.implicit, .named "Harbour" [], .named "double" []⟩,
     ⟨.explicit, .named "Trail" [], .named "Sea.Harbour" []⟩]⟩

/-- A route that is accessed as a trail, and one that is accessed as a length. -/
def fields : List Field :=
  [⟨"way", .named "Route" [], ⟨some "Geo", "Map", .classType, []⟩,
      [⟨"AutoProp", [.type (.named "Trail" [])]⟩], none⟩,
    ⟨"detour", .optional (.named "Route" []), ⟨some "Geo", "Map", .classType, []⟩,
      [⟨"AutoProp", [.type (.named "double" []), .bool true]⟩], none⟩]

theorem isUnrelated_harbour :
    Settings.standard.IsUnrelated ⟨[route] ++ [trail], fields⟩ harbour := by
  refine ⟨?_, by decide, by decide⟩
  intro p
  cases p <;> decide

/-- The harbour can be declared between the others. -/
theorem generate_harbour :
    Snapshot.validate ⟨[route] ++ harbour :: [trail], fields⟩ = .ok () ∧
      (∀ t ∈ Settings.standard.references ⟨[route] ++ [trail], fields⟩, t.HasNormalPaths) ∧
      Settings.standard.IsUnrelated ⟨[route] ++ [trail], fields⟩ harbour ∧
      Settings.standard.generate ⟨[route] ++ harbour :: [trail], fields⟩ =
        Settings.standard.generate ⟨[route] ++ [trail], fields⟩ := by
  have hvalid : Snapshot.validate ⟨[route] ++ harbour :: [trail], fields⟩ = .ok () := by rfl
  have hnormal : ∀ t ∈ Settings.standard.references ⟨[route] ++ [trail], fields⟩,
      t.HasNormalPaths := by
    decide
  exact ⟨hvalid, hnormal, isUnrelated_harbour,
    Settings.standard.generate_insert hvalid hnormal isUnrelated_harbour⟩

end Coast

end AccessorGen
