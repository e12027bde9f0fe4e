import AccessorGen.Universe

set_option autoImplicit false

/-!
# Ancestry

Whether a type derives from another, directly or through others.  The search
keeps the types it has been through and a stack of those it has yet to look at,
and is over as soon as it meets the type it looks for.  Base types may be
dangling, repeated or circular, but only finitely many are written, so each turn
of the search either goes through one more of them or shortens the stack.
-/

namespace AccessorGen.Universe

/-- The canonical base types of what a reference denotes. -/
def parents (u : Universe) (t : TypeRef) : List TypeRef :=
  match u.find? t with
  | some d => d.bases.map u.canonical
  | none => []

/-- The canonical forms of all base types that are written anywhere. -/
def baseTypes (u : Universe) : List TypeRef :=
  u.decls.flatMap fun d => d.bases.map u.canonical

/-- Every parent is a base type that is written somewhere. -/
theorem mem_baseTypes_of_mem_parents {u : Universe} {t p : TypeRef}
    (h : p ∈ u.parents t) : p ∈ u.baseTypes := by
  unfold parents at h
  split at h
  · rename_i d hd
    cases t with
    | named path args => exact List.mem_flatMap.mpr ⟨d, mem_of_resolve? hd, h⟩
    | array element rank => simp at hd
    | nullable inner => simp at hd
  · simp at h

/-! ## Searching -/

/-- The types a search has been through, and those it has yet to look at, the
next one first. -/
structure Search where
  visited : List TypeRef
  pending : List TypeRef
  deriving DecidableEq, Repr, Inhabited

/-- What a turn of a search comes to. -/
inductive Turn where
  | answers (found : Bool)
  | continues (s : Search)
  deriving DecidableEq, Repr, Inhabited

namespace Search

/-- The search at its beginning. -/
def start (t : TypeRef) : Search := ⟨[], [t]⟩

/-- Puts types on a stack one by one, unless the one looked for is among them. -/
def push? (base : TypeRef) (stack : List TypeRef) : List TypeRef → Option (List TypeRef)
  | [] => some stack
  | p :: rest => if p = base then none else push? base (p :: stack) rest

/-- One turn of the search for `base`: a type that has been visited is skipped,
and the parents of another one are tested and pushed. -/
def step (u : Universe) (base : TypeRef) (s : Search) : Turn :=
  match s.pending with
  | [] => .answers false
  | t :: rest =>
    if t ∈ s.visited then .continues ⟨s.visited, rest⟩
    else
      match push? base rest (u.parents t) with
      | none => .answers true
      | some pending => .continues ⟨t :: s.visited, pending⟩

theorem push?_eq (base : TypeRef) (stack parents : List TypeRef) :
    push? base stack parents =
      if base ∈ parents then none else some (parents.reverse ++ stack) := by
  induction parents generalizing stack with
  | nil => rfl
  | cons p rest ih =>
    unfold push?
    by_cases hp : p = base
    · simp [hp]
    · have hbase : base ∈ p :: rest ↔ base ∈ rest := by simp [Ne.symm hp]
      simp [hp, ih, hbase]

/-- Everything a turn can do: nothing is pending, or the next type has been
visited, or the one looked for is among its parents, or they are pushed. -/
theorem step_cases (u : Universe) (base : TypeRef) (s : Search) :
    (s.pending = [] ∧ s.step u base = .answers false) ∨
    ∃ t rest, s.pending = t :: rest ∧
      ((t ∈ s.visited ∧ s.step u base = .continues ⟨s.visited, rest⟩) ∨
        (t ∉ s.visited ∧ base ∈ u.parents t ∧ s.step u base = .answers true) ∨
        (t ∉ s.visited ∧ base ∉ u.parents t ∧
          s.step u base = .continues ⟨t :: s.visited, (u.parents t).reverse ++ rest⟩)) := by
  unfold step
  cases s.pending with
  | nil => exact .inl ⟨rfl, rfl⟩
  | cons t rest =>
    refine .inr ⟨t, rest, rfl, ?_⟩
    by_cases ht : t ∈ s.visited
    · exact .inl ⟨ht, by simp [ht]⟩
    · by_cases hbase : base ∈ u.parents t
      · exact .inr (.inl ⟨ht, hbase, by simp [ht, push?_eq, hbase]⟩)
      · exact .inr (.inr ⟨ht, hbase, by simp [ht, push?_eq, hbase]⟩)

/-- What a search goes on with is the same search without a type that has been
visited, or with the parents of one that has not. -/
theorem eq_of_step_eq_continues {u : Universe} {base : TypeRef} {s s' : Search}
    (h : s.step u base = .continues s') :
    ∃ t rest, s.pending = t :: rest ∧
      ((t ∈ s.visited ∧ s' = ⟨s.visited, rest⟩) ∨
        (t ∉ s.visited ∧ base ∉ u.parents t ∧
          s' = ⟨t :: s.visited, (u.parents t).reverse ++ rest⟩)) := by
  obtain ⟨-, hstep⟩ | ⟨t, rest, hpending, ⟨ht, hstep⟩ | ⟨-, -, hstep⟩ |
      ⟨ht, hbase, hstep⟩⟩ :=
    step_cases u base s
  · exact absurd (hstep.symm.trans h) nofun
  · exact ⟨t, rest, hpending, .inl ⟨ht, (Turn.continues.inj (hstep.symm.trans h)).symm⟩⟩
  · exact absurd (hstep.symm.trans h) nofun
  · exact ⟨t, rest, hpending,
      .inr ⟨ht, hbase, (Turn.continues.inj (hstep.symm.trans h)).symm⟩⟩

/-- Everything that is pending is where the search began or a base type. -/
def IsWithin (u : Universe) (start : TypeRef) (s : Search) : Prop :=
  ∀ t ∈ s.pending, t ∈ start :: u.baseTypes

variable {u : Universe} {start base : TypeRef} {s s' : Search}

theorem isWithin_start (u : Universe) (t : TypeRef) : IsWithin u t (.start t) :=
  fun _ hp => List.mem_singleton.mp hp ▸ List.mem_cons_self

theorem IsWithin.step (h : s.IsWithin u start) (hstep : s.step u base = .continues s') :
    s'.IsWithin u start := by
  obtain ⟨t, rest, hpending, ⟨-, rfl⟩ | ⟨-, -, rfl⟩⟩ := eq_of_step_eq_continues hstep
  · intro p hp
    exact h p (hpending ▸ List.mem_cons_of_mem t hp)
  · intro p hp
    rcases List.mem_append.mp hp with hparent | hrest
    · exact List.mem_cons_of_mem start
        (mem_baseTypes_of_mem_parents (List.mem_reverse.mp hparent))
    · exact h p (hpending ▸ List.mem_cons_of_mem t hrest)

/-- How many types the search can still go through, and how many are pending. -/
def remaining (u : Universe) (start : TypeRef) (s : Search) : Nat × Nat :=
  (((start :: u.baseTypes).filter (· ∉ s.visited)).length, s.pending.length)

theorem remaining_lt (h : s.IsWithin u start) (hstep : s.step u base = .continues s') :
    Prod.Lex (· < ·) (· < ·) (s'.remaining u start) (s.remaining u start) := by
  obtain ⟨t, rest, hpending, ⟨-, rfl⟩ | ⟨ht, -, rfl⟩⟩ := eq_of_step_eq_continues hstep
  · refine .right _ ?_
    rw [hpending]
    exact Nat.lt_succ_self _
  · refine .left _ _ ?_
    have hmem : t ∈ (start :: u.baseTypes).filter (· ∉ s.visited) :=
      List.mem_filter.mpr ⟨h t (hpending ▸ List.mem_cons_self), decide_eq_true ht⟩
    have hfewer : (start :: u.baseTypes).filter (· ∉ t :: s.visited) =
        ((start :: u.baseTypes).filter (· ∉ s.visited)).filter (· ≠ t) := by
      rw [List.filter_filter]
      exact List.filter_congr fun p _ => by simp
    show ((start :: u.baseTypes).filter (· ∉ t :: s.visited)).length < _
    rw [hfewer]
    exact List.length_filter_lt_length_iff_exists.mpr ⟨t, hmem, by simp⟩

/-- The answer of the search, turn after turn. -/
def run (u : Universe) (start base : TypeRef) (s : Search) (h : s.IsWithin u start) : Bool :=
  match hstep : s.step u base with
  | .answers found => found
  | .continues s' => run u start base s' (h.step hstep)
termination_by s.remaining u start
decreasing_by exact remaining_lt h hstep

end Search

/-! ## Deriving -/

/-- The canonical type `t` derives from `base`, directly or through others. -/
def hasAncestor (u : Universe) (t base : TypeRef) : Bool :=
  Search.run u t base (.start t) (Search.isWithin_start u t)

/-- The type that `t` denotes derives from the one that `base` denotes. -/
def derivesFrom (u : Universe) (t base : TypeRef) : Bool :=
  u.hasAncestor (u.canonical t) (u.canonical base)

end AccessorGen.Universe
