import AccessorGen.Proofs.Agreement
import AccessorGen.Proofs.Outcomes
import AccessorGen.Proofs.Validity

set_option autoImplicit false

/-!
# Reordering

A host may list the types of a program in any order, and the base types and
operators of each type too.  As long as the snapshot is valid, what is generated
does not depend on that order.
-/

namespace AccessorGen

/-- The same declaration with its base types and its operators in another
order. -/
structure TypeDecl.Reordered (d e : TypeDecl) : Prop where
  header : d.header = e.header
  bases : d.bases.Perm e.bases
  underlying : d.underlying = e.underlying
  operators : d.operators.Perm e.operators

/-- The same snapshot with its types in another order, and each of them
reordered in itself. -/
structure Snapshot.Reordered (s s' : Snapshot) : Prop where
  types : ∃ arranged, s.types.Perm arranged ∧
    List.Forall₂ TypeDecl.Reordered arranged s'.types
  fields : s.fields = s'.fields

/-- Universes with the same canonical forms agree on reordered declarations. -/
theorem TypeDecl.Reordered.agree {u v : Universe}
    (hcanonical : ∀ t, u.canonical t = v.canonical t) {d e : TypeDecl} (h : d.Reordered e) :
    TypeDecl.Agree u v d e := by
  have hcanonical' : u.canonical = v.canonical := funext hcanonical
  refine ⟨h.header, ?_, ?_⟩
  · intro p
    rw [hcanonical']
    exact (h.bases.map v.canonical).mem_iff
  · intro op
    rw [hcanonical']
    exact (h.operators.map (·.mapTypes v.canonical)).mem_iff

/-- The types of a valid snapshot agree with the reordered ones. -/
theorem Snapshot.Reordered.agree {s s' : Snapshot} (hvalid : s.validate = .ok ())
    (h : s.Reordered s') : s.toUniverse.Agree s'.toUniverse := by
  obtain ⟨arranged, hperm, hpointwise⟩ := h.types
  let between : Universe := ⟨arranged⟩
  have hresolve : ∀ path arity,
      s.toUniverse.resolve? path arity = between.resolve? path arity :=
    fun _ _ => Universe.resolve?_eq_of_perm (Snapshot.slots_nodup hvalid) hperm
  have hcanonical : ∀ t, s.toUniverse.canonical t = s'.toUniverse.canonical t := by
    intro t
    have hfirst : s.toUniverse.canonical t = between.canonical t :=
      Universe.canonical_congr fun path _ arity => by simp only [Universe.qualify, hresolve]
    rw [hfirst]
    exact Universe.canonical_eq_of_headers (fun _ _ hd => hd.header) hpointwise t
  exact Universe.Agree.of_forall₂ hresolve (hpointwise.imp fun _ _ hd => hd.agree hcanonical)

namespace Settings

/-- What is generated depends on the declared types only by how they relate. -/
theorem generate_congr (settings : Settings) {s s' : Snapshot} (hfields : s.fields = s'.fields)
    (hrelate : ∀ source target,
      s.toUniverse.relate source target = s'.toUniverse.relate source target) :
    settings.generate s = settings.generate s' :=
  settings.generate_congr_of_outcome s hfields fun _ _ =>
    Directive.Annotated.outcome_congr settings.baseName fun _ _ => hrelate _ _

/-- The order of types, of base types and of operators decides nothing that is
generated for a valid snapshot. -/
theorem generate_eq_of_reordered (settings : Settings) {s s' : Snapshot}
    (hvalid : s.validate = .ok ()) (h : s.Reordered s') :
    settings.generate s' = settings.generate s :=
  (generate_congr settings h.fields (h.agree hvalid).relate_eq_self).symm

end Settings

/-! ## A circle of types -/

namespace Snapshot

/-- A route is a trail and a trail is a route, and routes convert to and from
lengths. -/
def routes : Snapshot :=
  ⟨[⟨⟨some "Geo", "Route", .classType, []⟩, [.named "Trail" [], .named "object" []], none,
      [⟨.explicit, .named "Route" [], .named "double" []⟩,
       ⟨.implicit, .named "double" [], .named "Geo.Route" []⟩]⟩,
     ⟨⟨some "Geo", "Trail", .classType, []⟩, [.named "Geo.Route" []], none, []⟩],
    [⟨"way", .named "Route" [], ⟨some "Geo", "Map", .classType, []⟩,
      [⟨"AutoProp", [.type (.named "Trail" [])]⟩], none⟩]⟩

/-- The same program with everything about its types listed the other way
round. -/
def routesReversed : Snapshot :=
  ⟨[⟨⟨some "Geo", "Trail", .classType, []⟩, [.named "Geo.Route" []], none, []⟩,
     ⟨⟨some "Geo", "Route", .classType, []⟩, [.named "object" [], .named "Trail" []], none,
      [⟨.implicit, .named "double" [], .named "Geo.Route" []⟩,
       ⟨.explicit, .named "Route" [], .named "double" []⟩]⟩],
    routes.fields⟩

end Snapshot

/-- The types of a circle can be listed the other way round. -/
theorem generate_routesReversed :
    Snapshot.routes.validate = .ok () ∧ Snapshot.routes.Reordered Snapshot.routesReversed ∧
      Settings.standard.generate Snapshot.routesReversed =
        Settings.standard.generate Snapshot.routes := by
  have hvalid : Snapshot.routes.validate = .ok () := by rfl
  have hreordered : Snapshot.routes.Reordered Snapshot.routesReversed := by
    refine ⟨⟨Snapshot.routes.types.reverse, (List.reverse_perm _).symm, ?_⟩, rfl⟩
    refine .cons ⟨rfl, .refl _, rfl, .refl _⟩ (.cons ⟨rfl, ?_, rfl, ?_⟩ .nil)
    · exact .swap _ _ _
    · exact .swap _ _ _
  exact ⟨hvalid, hreordered, Settings.generate_eq_of_reordered .standard hvalid hreordered⟩

end AccessorGen
