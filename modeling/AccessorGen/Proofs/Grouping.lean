import AccessorGen.Accessor
import Mathlib.Algebra.GroupWithZero.Nat
import Mathlib.Data.List.Induction
import Mathlib.Data.List.Nodup

set_option autoImplicit false

/-!
# Grouping

Which groups there are, and in which order, is settled by the headers that the
accessors come with.  What the accessors are like has no part in it.

Every type has one group at most, no accessor is lost or met twice, and the
group of a type is the same whatever accessors of other types come in between.
-/

namespace AccessorGen.AccessorGroup

/-- Adds a header at the end unless one of the same type is there. -/
def addHeader (header : TypeHeader) : List TypeHeader → List TypeHeader
  | [] => [header]
  | h :: rest => if h.identity = header.identity then h :: rest else h :: addHeader header rest

theorem headers_insert (header : TypeHeader) (a : Accessor) (groups : List AccessorGroup) :
    (insert header a groups).map (·.header) = addHeader header (groups.map (·.header)) := by
  induction groups with
  | nil => rfl
  | cons g rest ih =>
    simp only [insert, List.map_cons, addHeader]
    split
    · rfl
    · rw [List.map_cons, ih]

theorem headers_foldl_insert (accessors : List (TypeHeader × Accessor))
    (groups : List AccessorGroup) :
    (accessors.foldl (fun groups (header, a) => insert header a groups) groups).map (·.header) =
      (accessors.map Prod.fst).foldl (fun headers header => addHeader header headers)
        (groups.map (·.header)) := by
  induction accessors generalizing groups with
  | nil => rfl
  | cons head rest ih =>
    rw [List.foldl_cons, ih, headers_insert, List.map_cons, List.foldl_cons]

/-- The headers of the groups depend on the headers of the accessors alone. -/
theorem headers_ofAccessors (accessors : List (TypeHeader × Accessor)) :
    (ofAccessors accessors).map (·.header) =
      (accessors.map Prod.fst).foldl (fun headers header => addHeader header headers) [] :=
  headers_foldl_insert accessors []

/-- The last accessor is added to the groups of those before it. -/
theorem ofAccessors_concat (accessors : List (TypeHeader × Accessor)) (header : TypeHeader)
    (a : Accessor) :
    ofAccessors (accessors ++ [(header, a)]) = insert header a (ofAccessors accessors) := by
  rw [ofAccessors, List.foldl_concat]
  rfl

/-! ## One group for each type -/

/-- A group is opened at the end for a type that has none. -/
theorem identities_insert (header : TypeHeader) (a : Accessor) (groups : List AccessorGroup) :
    (insert header a groups).map (·.header.identity) =
      if header.identity ∈ groups.map (·.header.identity) then groups.map (·.header.identity)
      else groups.map (·.header.identity) ++ [header.identity] := by
  induction groups with
  | nil => rfl
  | cons g rest ih =>
    unfold insert
    by_cases hg : g.header.identity = header.identity
    · simp [hg]
    · rw [if_neg hg, List.map_cons, ih, List.map_cons]
      by_cases hrest : header.identity ∈ rest.map (·.header.identity)
      · rw [if_pos hrest, if_pos (List.mem_cons_of_mem _ hrest)]
      · have hnew : header.identity ∉ g.header.identity :: rest.map (·.header.identity) := by
          intro h
          rcases List.mem_cons.mp h with h | h
          · exact hg h.symm
          · exact hrest h
        rw [if_neg hrest, if_neg hnew, List.cons_append]

/-- No two groups belong to one type. -/
theorem nodup_identities_ofAccessors (accessors : List (TypeHeader × Accessor)) :
    ((ofAccessors accessors).map (·.header.identity)).Nodup := by
  induction accessors using List.reverseRecOn with
  | nil => exact List.nodup_nil
  | append_singleton accessors last ih =>
    rw [ofAccessors_concat, identities_insert]
    split
    · exact ih
    · rename_i hnew
      rw [← List.concat_eq_append]
      exact ih.concat hnew

theorem mem_of_mem_addHeader {header h : TypeHeader} {headers : List TypeHeader}
    (hmem : h ∈ addHeader header headers) : h = header ∨ h ∈ headers := by
  induction headers with
  | nil => exact .inl (List.mem_singleton.mp hmem)
  | cons first rest ih =>
    unfold addHeader at hmem
    split at hmem
    · exact .inr hmem
    · rcases List.mem_cons.mp hmem with rfl | hmem
      · exact .inr List.mem_cons_self
      · exact (ih hmem).imp_right (List.mem_cons_of_mem first)

/-- The header of a group is the one that some accessor came with. -/
theorem mem_of_mem_headers_ofAccessors {accessors : List (TypeHeader × Accessor)}
    {h : TypeHeader} (hmem : h ∈ (ofAccessors accessors).map (·.header)) :
    h ∈ accessors.map Prod.fst := by
  induction accessors using List.reverseRecOn with
  | nil => exact absurd hmem List.not_mem_nil
  | append_singleton accessors last ih =>
    rw [ofAccessors_concat, headers_insert] at hmem
    rw [List.map_append, List.mem_append]
    rcases mem_of_mem_addHeader hmem with rfl | hmem
    · exact .inr List.mem_cons_self
    · exact .inl (ih hmem)

/-- Every accessor of a group came with the others. -/
theorem exists_of_mem_insert {header : TypeHeader} {a b : Accessor} {groups : List AccessorGroup}
    {g : AccessorGroup} (hg : g ∈ insert header a groups) (hb : b ∈ g.accessors) :
    b = a ∨ ∃ g' ∈ groups, b ∈ g'.accessors := by
  induction groups with
  | nil =>
    obtain rfl := List.mem_singleton.mp hg
    exact .inl (List.mem_singleton.mp hb)
  | cons first rest ih =>
    unfold insert at hg
    split at hg
    · rcases List.mem_cons.mp hg with rfl | hg
      · rcases List.mem_append.mp hb with hb | hb
        · exact .inr ⟨first, List.mem_cons_self, hb⟩
        · exact .inl (List.mem_singleton.mp hb)
      · exact .inr ⟨g, List.mem_cons_of_mem first hg, hb⟩
    · rcases List.mem_cons.mp hg with rfl | hg
      · exact .inr ⟨g, List.mem_cons_self, hb⟩
      · exact (ih hg).imp_right fun ⟨g', hg', hb'⟩ => ⟨g', List.mem_cons_of_mem first hg', hb'⟩

/-- Every accessor of a group is one of those that were grouped. -/
theorem exists_of_mem_accessors {accessors : List (TypeHeader × Accessor)} {g : AccessorGroup}
    {b : Accessor} (hg : g ∈ ofAccessors accessors) (hb : b ∈ g.accessors) :
    ∃ h, (h, b) ∈ accessors := by
  induction accessors using List.reverseRecOn generalizing g with
  | nil => exact absurd hg List.not_mem_nil
  | append_singleton accessors last ih =>
    rw [ofAccessors_concat] at hg
    rcases exists_of_mem_insert hg hb with rfl | ⟨g', hg', hb'⟩
    · exact ⟨last.1, List.mem_append_right _ List.mem_cons_self⟩
    · obtain ⟨h, hmem⟩ := ih hg' hb'
      exact ⟨h, List.mem_append_left _ hmem⟩

/-! ## No accessor is lost -/

theorem sum_length_insert (header : TypeHeader) (a : Accessor) (groups : List AccessorGroup) :
    ((insert header a groups).map (·.accessors.length)).sum =
      (groups.map (·.accessors.length)).sum + 1 := by
  induction groups with
  | nil => rfl
  | cons g rest ih =>
    unfold insert
    split
    · simp only [List.map_cons, List.sum_cons, List.length_append, List.length_singleton]
      omega
    · simp only [List.map_cons, List.sum_cons, ih]
      omega

/-- The groups hold as many accessors as there are. -/
theorem sum_length_ofAccessors (accessors : List (TypeHeader × Accessor)) :
    ((ofAccessors accessors).map (·.accessors.length)).sum = accessors.length := by
  induction accessors using List.reverseRecOn with
  | nil => rfl
  | append_singleton accessors last ih =>
    rw [ofAccessors_concat, sum_length_insert, ih, List.length_append, List.length_singleton]

/-! ## The group of one type -/

/-- Adding an accessor changes the group of its own type only. -/
theorem filter_insert (k : TypeIdentity) (header : TypeHeader) (a : Accessor)
    (groups : List AccessorGroup) :
    (insert header a groups).filter (·.header.identity = k) =
      if header.identity = k then insert header a (groups.filter (·.header.identity = k))
      else groups.filter (·.header.identity = k) := by
  induction groups with
  | nil => by_cases h : header.identity = k <;> simp [insert, h]
  | cons g rest ih =>
    by_cases hg : g.header.identity = header.identity
    · by_cases hk : header.identity = k <;> simp [insert, hg, hk]
    · rw [insert, if_neg hg]
      by_cases hgk : g.header.identity = k
      · -- The new accessor is of another type than `k`.
        have hk : header.identity ≠ k := fun h => hg (hgk.trans h.symm)
        rw [if_neg hk] at ih ⊢
        rw [List.filter_cons_of_pos (by simpa using hgk), ih,
          List.filter_cons_of_pos (by simpa using hgk)]
      · rw [List.filter_cons_of_neg (by simpa using hgk), ih,
          List.filter_cons_of_neg (by simpa using hgk)]

/-- The group of a type is made of the accessors of that type alone. -/
theorem ofAccessors_filter (k : TypeIdentity) (accessors : List (TypeHeader × Accessor)) :
    ofAccessors (accessors.filter (·.1.identity = k)) =
      (ofAccessors accessors).filter (·.header.identity = k) := by
  induction accessors using List.reverseRecOn with
  | nil => rfl
  | append_singleton accessors last ih =>
    rw [ofAccessors_concat, filter_insert, ← ih, List.filter_append]
    by_cases hk : last.1.identity = k
    · rw [if_pos hk, List.filter_cons_of_pos (by simpa using hk), List.filter_nil,
        ofAccessors_concat]
    · rw [if_neg hk, List.filter_cons_of_neg (by simpa using hk), List.filter_nil,
        List.append_nil]

end AccessorGen.AccessorGroup
