import AccessorGen.Proofs.Grouping

set_option autoImplicit false

/-!
# Stable partition

Grouping divides the accessors by the type they belong to and changes nothing
about their order.  The groups stand in the order in which their types were
first met, each under the header that it was opened with, and a group holds the
accessors of its type in the order in which they came.

The group of a type need not be searched for.  With a table of positions beside
the groups, an accessor is put into the group at the position of its type.  The
table knows the positions of all groups and no others, whatever accessors come,
so a position is never out of range and the groups are the same.
-/

namespace AccessorGen

namespace AccessorGroup

/-! ## The accessors of a group -/

/-- Accessors of one type all go into its group. -/
theorem foldl_insert_of_same {g : AccessorGroup} {accessors : List (TypeHeader × Accessor)}
    (h : ∀ p ∈ accessors, p.1.identity = g.header.identity) :
    accessors.foldl (fun groups (header, a) => insert header a groups) [g] =
      [⟨g.header, g.accessors ++ accessors.map Prod.snd⟩] := by
  induction accessors generalizing g with
  | nil => simp
  | cons p rest ih =>
    obtain ⟨header, a⟩ := p
    obtain ⟨hheader, hrest⟩ := List.forall_mem_cons.mp h
    have hstep : insert header a [g] = [⟨g.header, g.accessors ++ [a]⟩] := if_pos hheader.symm
    have hall := ih (g := ⟨g.header, g.accessors ++ [a]⟩) hrest
    rw [List.append_assoc, List.singleton_append] at hall
    rw [← hstep] at hall
    exact hall

/-- A group is made of the accessors of its type, and the first of them brought
its header. -/
theorem exists_of_mem_ofAccessors {accessors : List (TypeHeader × Accessor)} {g : AccessorGroup}
    (hg : g ∈ ofAccessors accessors) :
    ∃ first rest, accessors.filter (·.1.identity = g.header.identity) = first :: rest ∧
      g = ⟨first.1, (first :: rest).map Prod.snd⟩ := by
  have hmem : g ∈ ofAccessors (accessors.filter (·.1.identity = g.header.identity)) := by
    rw [ofAccessors_filter]
    exact List.mem_filter.mpr ⟨hg, decide_eq_true rfl⟩
  cases hfilter : accessors.filter (·.1.identity = g.header.identity) with
  | nil =>
    rw [hfilter] at hmem
    exact absurd hmem List.not_mem_nil
  | cons first rest =>
    have hsame : ∀ p ∈ first :: rest, p.1.identity = g.header.identity := by
      intro p hp
      rw [← hfilter] at hp
      exact of_decide_eq_true (List.mem_filter.mp hp).2
    obtain ⟨hfirst, hrest⟩ := List.forall_mem_cons.mp hsame
    have hall := foldl_insert_of_same (g := ⟨first.1, [first.2]⟩)
      fun p hp => (hrest p hp).trans hfirst.symm
    have hopened : ofAccessors (first :: rest) = [⟨first.1, (first :: rest).map Prod.snd⟩] := hall
    rw [hfilter, hopened] at hmem
    exact ⟨first, rest, rfl, List.mem_singleton.mp hmem⟩

/-- The types of the groups are those of the accessors, each where it comes
first. -/
theorem identities_ofAccessors (accessors : List (TypeHeader × Accessor)) :
    (ofAccessors accessors).map (·.header.identity) =
      (accessors.map (·.1.identity)).eraseDups := by
  induction accessors using List.reverseRecOn with
  | nil => rfl
  | append_singleton accessors last ih =>
    rw [ofAccessors_concat, identities_insert, ih, List.map_append, List.eraseDups_append]
    by_cases hold : last.1.identity ∈ accessors.map (·.1.identity)
    · have hnothing : [last.1.identity].removeAll (accessors.map (·.1.identity)) = [] := by
        simpa [List.removeAll] using hold
      rw [if_pos (List.mem_eraseDups.mpr hold), List.map_singleton, hnothing]
      exact (List.append_nil _).symm
    · have hnew : [last.1.identity].removeAll (accessors.map (·.1.identity)) =
          [last.1.identity] := by
        simpa [List.removeAll] using hold
      rw [if_neg fun hmem => hold (List.mem_eraseDups.mp hmem), List.map_singleton, hnew]
      rfl

/-- The groups divide the accessors by type and keep their order. -/
structure Divides (accessors : List (TypeHeader × Accessor)) (groups : List AccessorGroup) :
    Prop where
  /-- No two groups belong to one type. -/
  distinct : (groups.map (·.header.identity)).Nodup
  /-- The groups stand in the order in which their types are first met. -/
  inOrder : groups.map (·.header.identity) = (accessors.map (·.1.identity)).eraseDups
  /-- A group has the header that the first accessor of its type came with. -/
  headers : ∀ g ∈ groups,
    (accessors.find? (·.1.identity = g.header.identity)).map Prod.fst = some g.header
  nonempty : ∀ g ∈ groups, g.accessors ≠ []
  /-- A group holds the accessors of its type in order. -/
  members : ∀ g ∈ groups,
    g.accessors = (accessors.filter (·.1.identity = g.header.identity)).map Prod.snd

theorem divides_ofAccessors (accessors : List (TypeHeader × Accessor)) :
    Divides accessors (ofAccessors accessors) where
  distinct := nodup_identities_ofAccessors accessors
  inOrder := identities_ofAccessors accessors
  headers := by
    intro g hg
    obtain ⟨first, rest, hfilter, hfirst⟩ := exists_of_mem_ofAccessors hg
    rw [← List.head?_filter, hfilter, List.head?_cons, Option.map_some, hfirst]
  nonempty := by
    intro g hg
    obtain ⟨first, rest, -, rfl⟩ := exists_of_mem_ofAccessors hg
    exact List.cons_ne_nil _ _
  members := by
    intro g hg
    obtain ⟨first, rest, hfilter, hfirst⟩ := exists_of_mem_ofAccessors hg
    rw [hfilter, hfirst]

/-! ## Positions of groups -/

theorem insert_eq_append {header : TypeHeader} {a : Accessor} {groups : List AccessorGroup}
    (h : ∀ g ∈ groups, g.header.identity ≠ header.identity) :
    insert header a groups = groups ++ [⟨header, [a]⟩] := by
  induction groups with
  | nil => rfl
  | cons g rest ih =>
    obtain ⟨hg, hrest⟩ := List.forall_mem_cons.mp h
    rw [insert, if_neg hg, ih hrest, List.cons_append]

/-- The group of the type is the one at the first position where one is. -/
theorem insert_eq_set {header : TypeHeader} {a : Accessor} {groups : List AccessorGroup} {i : Nat}
    {g : AccessorGroup} (hg : groups[i]? = some g) (hheader : g.header.identity = header.identity)
    (hfirst : ∀ j g', groups[j]? = some g' → g'.header.identity = header.identity → i ≤ j) :
    insert header a groups = groups.set i ⟨g.header, g.accessors ++ [a]⟩ := by
  induction groups generalizing i with
  | nil => exact absurd hg (by simp)
  | cons first rest ih =>
    by_cases hhead : first.header.identity = header.identity
    · obtain rfl : i = 0 := Nat.le_zero.mp (hfirst 0 first rfl hhead)
      obtain rfl : first = g := Option.some.inj hg
      rw [insert, if_pos hhead]
      rfl
    · cases i with
      | zero =>
        obtain rfl : first = g := Option.some.inj hg
        exact absurd hheader hhead
      | succ i =>
        have htail := ih hg fun j g' hj hg' =>
          Nat.le_of_succ_le_succ (hfirst (j + 1) g' hj hg')
        rw [insert, if_neg hhead, htail]
        rfl

namespace Indexed

/-- The table has the positions of all groups and no others. -/
def IsTabled (t : Indexed) : Prop :=
  ∀ (k : TypeIdentity) (i : Nat),
    t.positions.lookup k = some i ↔ ∃ g, t.groups[i]? = some g ∧ g.header.identity = k

theorem isTabled_empty : empty.IsTabled := by
  intro k i
  simp [empty]

variable {t : Indexed} {header : TypeHeader}

/-- A group that is opened is known to the table. -/
theorem IsTabled.push (ht : t.IsTabled) (hnone : t.positions.lookup header.identity = none)
    (a : Accessor) :
    IsTabled ⟨t.groups.push ⟨header, [a]⟩,
      (header.identity, t.groups.size) :: t.positions⟩ := by
  intro k i
  simp only [Array.getElem?_push]
  by_cases hk : header.identity = k
  · -- Only the new group is of its type.
    subst hk
    rw [List.lookup_cons_self, Option.some.injEq]
    constructor
    · rintro rfl
      exact ⟨_, if_pos rfl, rfl⟩
    · rintro ⟨g, hg, hheader⟩
      by_cases hi : i = t.groups.size
      · exact hi.symm
      · rw [if_neg hi] at hg
        have hold := (ht header.identity i).mpr ⟨g, hg, hheader⟩
        rw [hnone] at hold
        exact absurd hold (by simp)
  · have hbeq : (k == header.identity) = false := beq_false_of_ne (Ne.symm hk)
    rw [List.lookup_cons, hbeq, ht]
    refine exists_congr fun g => and_congr_left fun hheader => ?_
    by_cases hi : i = t.groups.size
    · subst hi
      have hne : (⟨header, [a]⟩ : AccessorGroup) ≠ g := by
        rintro rfl
        exact hk hheader
      simp [hne]
    · rw [if_neg hi]

/-- A group that grows stays where it is. -/
theorem IsTabled.set (ht : t.IsTabled) {i : Nat} {g : AccessorGroup}
    (hg : t.groups[i]? = some g) (accessors : List Accessor) :
    IsTabled ⟨t.groups.setIfInBounds i ⟨g.header, accessors⟩, t.positions⟩ := by
  intro k j
  have hsize : i < t.groups.size := (Array.getElem?_eq_some_iff.mp hg).1
  rw [ht, Array.getElem?_setIfInBounds]
  by_cases hij : i = j
  · subst hij
    rw [if_pos rfl, if_pos hsize, hg]
    simp only [Option.some.injEq, exists_eq_left']
  · rw [if_neg hij]

/-- The position of a type is in range, and using it does what searching does. -/
theorem exists_insert? (ht : t.IsTabled) (header : TypeHeader) (a : Accessor) :
    ∃ t', t.insert? header a = some t' ∧ t'.IsTabled ∧
      t'.groups.toList = AccessorGroup.insert header a t.groups.toList := by
  unfold insert?
  cases hposition : t.positions.lookup header.identity with
  | none =>
    refine ⟨_, rfl, ht.push hposition a, ?_⟩
    have hnew : ∀ g ∈ t.groups.toList, g.header.identity ≠ header.identity := by
      intro g hg hheader
      obtain ⟨i, hi⟩ := List.mem_iff_getElem?.mp hg
      have hold := (ht header.identity i).mpr ⟨g, by rw [← hi, Array.getElem?_toList], hheader⟩
      rw [hposition] at hold
      exact absurd hold (by simp)
    rw [insert_eq_append hnew, Array.toList_push]
  | some i =>
    obtain ⟨g, hg, hheader⟩ := (ht header.identity i).mp hposition
    simp only [hg]
    refine ⟨_, rfl, ht.set hg _, ?_⟩
    have hfirst : ∀ j g', t.groups.toList[j]? = some g' →
        g'.header.identity = header.identity → i ≤ j := by
      intro j g' hj hg'
      have hsame := (ht header.identity j).mpr ⟨g', by rw [← hj, Array.getElem?_toList], hg'⟩
      rw [hposition] at hsame
      exact Nat.le_of_eq (Option.some.inj hsame)
    rw [Array.getElem?_toList.symm] at hg
    rw [insert_eq_set hg hheader hfirst, Array.toList_setIfInBounds]

/-- Whatever accessors come, no position is out of range. -/
theorem exists_ofAccessors? (accessors : List (TypeHeader × Accessor)) :
    ∃ t, ofAccessors? accessors = some t ∧ t.IsTabled ∧
      t.groups.toList = AccessorGroup.ofAccessors accessors := by
  induction accessors using List.reverseRecOn with
  | nil => exact ⟨empty, rfl, isTabled_empty, rfl⟩
  | append_singleton accessors last ih =>
    obtain ⟨t, hrun, ht, hgroups⟩ := ih
    obtain ⟨t', hstep, ht', hgroups'⟩ := exists_insert? ht last.1 last.2
    refine ⟨t', ?_, ht', ?_⟩
    · rw [ofAccessors?, List.foldlM_append, ← ofAccessors?, hrun]
      simpa using hstep
    · rw [hgroups', hgroups, ofAccessors_concat]

end Indexed

/-- Grouping is a stable partition: the groups divide the accessors by type and
keep their order.  A table of positions leads to the same groups, knows them all
and never leads out of range. -/
theorem ofAccessors_stable (accessors : List (TypeHeader × Accessor)) :
    Divides accessors (ofAccessors accessors) ∧
      ∃ t, Indexed.ofAccessors? accessors = some t ∧ t.IsTabled ∧
        t.groups.toList = ofAccessors accessors :=
  ⟨divides_ofAccessors accessors, Indexed.exists_ofAccessors? accessors⟩

end AccessorGroup

end AccessorGen
