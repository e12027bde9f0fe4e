import AccessorGen.Ancestry
import Mathlib.Data.List.Chain

set_option autoImplicit false

/-!
# Ancestry: reachability

The search along base types ends and finds exactly the types that a chain of
base types leads to, whatever the order in which they are listed and whether or
not the chains run in circles.  It goes through each type once.  A parent of a
type it has been through is never lost: it has been visited as well or is still
pending, so a chain that begins at a visited type leads out of those by a pending
one.  So one type derives from another exactly if a chain of base types joins
them, and such chains can be put one behind the other.
-/

namespace AccessorGen

/-- What is reached in one or more steps is the end of a list of two or more
members, each of them a step away from the one before. -/
theorem transGen_iff_exists_isChain {α : Type} {r : α → α → Prop} {a b : α} :
    Relation.TransGen r a b ↔
      ∃ chain : List α, 2 ≤ chain.length ∧ chain.head? = some a ∧ chain.getLast? = some b ∧
        chain.IsChain r := by
  constructor
  · intro h
    obtain ⟨c, hfirst, hrest⟩ := Relation.TransGen.head'_iff.mp h
    obtain ⟨l, hchain, hlast⟩ := List.exists_isChain_cons_of_relationReflTransGen hrest
    refine ⟨a :: c :: l, by simp, rfl, ?_, hchain.cons_cons hfirst⟩
    rw [List.getLast?_cons_cons, List.getLast?_eq_some_getLast (List.cons_ne_nil c l), hlast]
  · rintro ⟨chain, hlength, hhead, hlast, hchain⟩
    cases chain with
    | nil => simp at hhead
    | cons first tail =>
      obtain rfl : first = a := Option.some.inj hhead
      cases tail with
      | nil => simp at hlength
      | cons c l =>
        obtain ⟨hfirst, hrest⟩ := List.isChain_cons_cons.mp hchain
        rw [List.getLast?_cons_cons,
          List.getLast?_eq_some_getLast (List.cons_ne_nil c l)] at hlast
        refine Relation.TransGen.head' hfirst ?_
        exact List.relationReflTransGen_of_exists_isChain_cons l hrest (Option.some.inj hlast)

namespace Universe

/-- The canonical type `p` is a base type of what `t` denotes. -/
def IsParent (u : Universe) (t p : TypeRef) : Prop := p ∈ u.parents t

namespace Search

/-- The second search is what the first goes on with. -/
def Continues (u : Universe) (base : TypeRef) (s s' : Search) : Prop :=
  s.step u base = .continues s'

/-- No parent of a visited type is lost, and the one looked for is not among
them. -/
def IsClosed (u : Universe) (base : TypeRef) (s : Search) : Prop :=
  ∀ t ∈ s.visited, base ∉ u.parents t ∧ ∀ p ∈ u.parents t, p ∈ s.visited ∨ p ∈ s.pending

variable {u : Universe} {start base : TypeRef} {s s' : Search}

theorem IsClosed.step (h : s.IsClosed u base) (hstep : s.step u base = .continues s') :
    s'.IsClosed u base := by
  obtain ⟨t, rest, hpending, ⟨ht, rfl⟩ | ⟨-, hbase, rfl⟩⟩ := eq_of_step_eq_continues hstep
  · intro v hv
    refine ⟨(h v hv).1, fun p hp => ?_⟩
    rcases (h v hv).2 p hp with hvisited | hp
    · exact .inl hvisited
    · rw [hpending] at hp
      rcases List.mem_cons.mp hp with rfl | hrest
      · exact .inl ht
      · exact .inr hrest
  · intro v hv
    rcases List.mem_cons.mp hv with rfl | hv
    · exact ⟨hbase, fun p hp => .inr (List.mem_append_left rest (List.mem_reverse.mpr hp))⟩
    · refine ⟨(h v hv).1, fun p hp => ?_⟩
      rcases (h v hv).2 p hp with hvisited | hp
      · exact .inl (List.mem_cons_of_mem t hvisited)
      · rw [hpending] at hp
        rcases List.mem_cons.mp hp with rfl | hrest
        · exact .inl List.mem_cons_self
        · exact .inr (List.mem_append_right _ hrest)

/-- A chain from a visited type to the one looked for leaves the visited types by
a pending one. -/
theorem IsClosed.exists_pending (h : s.IsClosed u base) {t : TypeRef} (ht : t ∈ s.visited)
    (hchain : Relation.TransGen u.IsParent t base) :
    ∃ p ∈ s.pending, p ∉ s.visited ∧ Relation.TransGen u.IsParent p base := by
  induction hchain using Relation.TransGen.head_induction_on with
  | single hp => exact absurd hp (h _ ht).1
  | @head t p hp hrest ih =>
    by_cases hvisited : p ∈ s.visited
    · exact ih hvisited
    · exact ⟨p, ((h t ht).2 p hp).resolve_left hvisited, hvisited, hrest⟩

/-- The search finds what chains from the pending types lead to, apart from those
that it has been through. -/
theorem run_eq_true_iff (h : s.IsWithin u start) (hclosed : s.IsClosed u base) :
    run u start base s h = true ↔
      ∃ p ∈ s.pending, p ∉ s.visited ∧ Relation.TransGen u.IsParent p base := by
  fun_induction run u start base s h with
  | case1 s h found hstep =>
    obtain ⟨hpending, hanswer⟩ | ⟨t, rest, hpending, ⟨-, hanswer⟩ | ⟨ht, hbase, hanswer⟩ |
      ⟨-, -, hanswer⟩⟩ := step_cases u base s
    · rw [← Turn.answers.inj (hanswer.symm.trans hstep), hpending]
      simp
    · exact absurd (hanswer.symm.trans hstep) nofun
    · refine iff_of_true (Turn.answers.inj (hanswer.symm.trans hstep)).symm ?_
      exact ⟨t, hpending ▸ List.mem_cons_self, ht, .single hbase⟩
    · exact absurd (hanswer.symm.trans hstep) nofun
  | case2 s h s' hstep ih =>
    have hclosed' : s'.IsClosed u base := hclosed.step hstep
    rw [ih hclosed']
    obtain ⟨t, rest, hpending, ⟨ht, rfl⟩ | ⟨ht, hbase, rfl⟩⟩ := eq_of_step_eq_continues hstep
    · rw [hpending]
      simp [ht]
    · constructor
      · rintro ⟨p, hp, hnew, hchain⟩
        rcases List.mem_append.mp hp with hparent | hrest
        · exact ⟨t, hpending ▸ List.mem_cons_self, ht, hchain.head (List.mem_reverse.mp hparent)⟩
        · exact ⟨p, hpending ▸ List.mem_cons_of_mem t hrest,
            fun hp => hnew (List.mem_cons_of_mem t hp), hchain⟩
      · rintro ⟨p, hp, hnew, hchain⟩
        rw [hpending] at hp
        by_cases hpt : p = t
        · exact hclosed'.exists_pending (hpt ▸ List.mem_cons_self) hchain
        · have hrest : p ∈ rest := (List.mem_cons.mp hp).resolve_left hpt
          exact ⟨p, List.mem_append_right _ hrest, fun h => (List.mem_cons.mp h).elim hpt hnew,
            hchain⟩

/-- Turn after turn, the search comes to its answer. -/
theorem exists_answers (h : s.IsWithin u start) :
    ∃ s', Relation.ReflTransGen (Continues u base) s s' ∧
      s'.step u base = .answers (run u start base s h) := by
  fun_induction run u start base s h with
  | case1 s h found hstep => exact ⟨s, .refl, hstep⟩
  | case2 s h s' hstep ih =>
    obtain ⟨last, hturns, hanswer⟩ := ih
    exact ⟨last, hturns.head hstep, hanswer⟩

/-- The types a search has been through are where it began and base types, each
of them once. -/
theorem visited_of_continues {t : TypeRef}
    (h : Relation.ReflTransGen (Continues u base) (.start t) s) :
    s.visited.Nodup ∧ s.visited ⊆ t :: u.baseTypes ∧ s.IsWithin u t := by
  induction h with
  | refl => exact ⟨List.nodup_nil, List.nil_subset _, isWithin_start u t⟩
  | @tail s s' _ hstep ih =>
    obtain ⟨hnodup, hsubset, hwithin⟩ := ih
    have hwithin' := hwithin.step hstep
    obtain ⟨v, rest, hpending, ⟨-, rfl⟩ | ⟨hv, -, rfl⟩⟩ := eq_of_step_eq_continues hstep
    · exact ⟨hnodup, hsubset, hwithin'⟩
    · have hnext : v ∈ t :: u.baseTypes := hwithin v (hpending ▸ List.mem_cons_self)
      exact ⟨List.nodup_cons.mpr ⟨hv, hnodup⟩, List.cons_subset.mpr ⟨hnext, hsubset⟩, hwithin'⟩

end Search

/-- A canonical type derives from another exactly if a chain of one or more base
types leads to it. -/
theorem hasAncestor_iff (u : Universe) (t base : TypeRef) :
    u.hasAncestor t base = true ↔ Relation.TransGen u.IsParent t base := by
  have hclosed : (Search.start t).IsClosed u base := List.forall_mem_nil _
  rw [hasAncestor, Search.run_eq_true_iff _ hclosed]
  simp [Search.start]

theorem isParent_iff {u : Universe} {t p : TypeRef} :
    u.IsParent t p ↔ ∃ d, u.find? t = some d ∧ ∃ base ∈ d.bases, u.canonical base = p := by
  unfold IsParent parents
  cases u.find? t with
  | none => simp
  | some d => simp

/-- A type without base types derives from nothing. -/
theorem hasAncestor_eq_false {u : Universe} {t : TypeRef} (h : u.parents t = [])
    (base : TypeRef) : u.hasAncestor t base = false := by
  rw [Bool.eq_false_iff, ne_eq, hasAncestor_iff]
  intro hchain
  obtain ⟨p, hp, -⟩ := Relation.TransGen.head'_iff.mp hchain
  rw [IsParent, h] at hp
  exact absurd hp List.not_mem_nil

/-- The search from a type comes to its answer after finitely many turns and goes
through the type and each base type that is written anywhere at most once.  One
type derives from another exactly if a chain of one or more base types leads
there, each of them listed in the declaration that the type before it denotes.
Hence derivation is transitive. -/
theorem derivesFrom_iff_exists_chain (u : Universe) :
    (∀ t base,
      (∃ s, Relation.ReflTransGen (Search.Continues u base) (.start t) s ∧
        s.step u base = .answers (u.hasAncestor t base)) ∧
      ∀ s, Relation.ReflTransGen (Search.Continues u base) (.start t) s →
        s.visited.Nodup ∧ s.visited ⊆ t :: u.baseTypes) ∧
    (∀ t base, u.derivesFrom t base = true ↔
      ∃ chain : List TypeRef, 2 ≤ chain.length ∧ chain.head? = some (u.canonical t) ∧
        chain.getLast? = some (u.canonical base) ∧
        chain.IsChain fun a b => ∃ d, u.find? a = some d ∧ ∃ p ∈ d.bases, u.canonical p = b) ∧
    ∀ a b c, u.derivesFrom a b = true → u.derivesFrom b c = true → u.derivesFrom a c = true := by
  refine ⟨?_, ?_, ?_⟩
  · intro t base
    refine ⟨Search.exists_answers (Search.isWithin_start u t), fun s hs => ?_⟩
    obtain ⟨hnodup, hsubset, -⟩ := Search.visited_of_continues hs
    exact ⟨hnodup, hsubset⟩
  · intro t base
    have hlink : u.IsParent =
        fun a b => ∃ d, u.find? a = some d ∧ ∃ p ∈ d.bases, u.canonical p = b := by
      funext a b
      exact propext isParent_iff
    rw [derivesFrom, hasAncestor_iff, transGen_iff_exists_isChain, hlink]
  · intro a b c hab hbc
    rw [derivesFrom, hasAncestor_iff] at hab hbc ⊢
    exact hab.trans hbc

/-! ## A circle of types -/

/-- A route is a trail and a trail is a route; a trail is also something that is
not declared. -/
def circle : Universe :=
  ⟨[⟨⟨some "Geo", "Route", .classType, []⟩, [.named "Trail" []], none, []⟩,
    ⟨⟨some "Geo", "Trail", .classType, []⟩, [.named "Path" [], .named "Geo.Route" []], none, []⟩]⟩

/-- In a circle a type derives from itself. -/
theorem derivesFrom_circle :
    circle.derivesFrom (.named "Route" []) (.named "Geo.Trail" []) = true ∧
      circle.derivesFrom (.named "Geo.Trail" []) (.named "Route" []) = true ∧
      circle.derivesFrom (.named "Route" []) (.named "Route" []) = true := by
  obtain ⟨-, hchain, htrans⟩ := derivesFrom_iff_exists_chain circle
  have hroute : circle.derivesFrom (.named "Route" []) (.named "Geo.Trail" []) = true := by
    refine (hchain _ _).mpr
      ⟨[.named "Geo.Route" [], .named "Geo.Trail" []], by decide, rfl, rfl, ?_⟩
    exact .cons_cons ⟨_, rfl, .named "Trail" [], by decide, rfl⟩ (.singleton _)
  have htrail : circle.derivesFrom (.named "Geo.Trail" []) (.named "Route" []) = true := by
    refine (hchain _ _).mpr
      ⟨[.named "Geo.Trail" [], .named "Geo.Route" []], by decide, rfl, rfl, ?_⟩
    exact .cons_cons ⟨_, rfl, .named "Geo.Route" [], by decide, rfl⟩ (.singleton _)
  exact ⟨hroute, htrail, htrans _ _ _ hroute htrail⟩

end Universe

end AccessorGen
