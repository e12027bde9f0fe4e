import AccessorGen.Universe
import AccessorGen.Validation
import Mathlib.Data.List.Forall2
import Mathlib.Data.List.Nodup

set_option autoImplicit false

/-!
# Lookup

What a path denotes, said without the order in which the declarations stand.
In a universe that takes no slot twice the declaration of a qualified name is
the only one of that name, so that any arrangement of the same declarations
answers every lookup alike.  Two universes whose declarations have the same
headers, place by place, answer every lookup with declarations at the same
place, and so give every type the same canonical form.  A canonical form depends
on nothing but the paths in the reference, and holds no other paths than what
these denote.
-/

namespace AccessorGen

namespace TypeRef

mutual

/-- The paths of all named types in the reference. -/
def paths : TypeRef → List String
  | .named path args => path :: allPaths args
  | .array element _ => paths element
  | .nullable inner => paths inner

/-- The paths of all named types in the references. -/
def allPaths : List TypeRef → List String
  | [] => []
  | t :: ts => paths t ++ allPaths ts

end

theorem mem_allPaths_iff {path : String} {ts : List TypeRef} :
    path ∈ allPaths ts ↔ ∃ t ∈ ts, path ∈ t.paths := by
  induction ts with
  | nil => simp [allPaths]
  | cons t ts ih => simp [allPaths, ih]

theorem paths_optional (t : TypeRef) : (optional t).paths = t.paths := by
  cases t <;> rfl

end TypeRef

/-- A search by what related members have in common finds related members. -/
theorem find?_rel {α β : Type} {R : α → β → Prop} {p : α → Bool} {q : β → Bool}
    (hpq : ∀ a b, R a b → p a = q b) {l : List α} {l' : List β} (h : List.Forall₂ R l l') :
    Option.Rel R (l.find? p) (l'.find? q) := by
  induction h with
  | nil => exact .none
  | @cons a b l l' hab _ ih =>
    rw [List.find?_cons, List.find?_cons, hpq a b hab]
    cases q b with
    | true => exact .some hab
    | false => exact ih

namespace Universe

/-! ## Lookup by membership -/

section Distinct

variable {u v : Universe} {path : String} {arity : Nat} {d : TypeDecl}

/-- Declarations that share a slot are one declaration. -/
theorem eq_of_slot_eq (hu : (u.decls.map TypeDecl.slot).Nodup) {e : TypeDecl}
    (hd : d ∈ u.decls) (he : e ∈ u.decls) (h : d.slot = e.slot) : d = e :=
  List.inj_on_of_nodup_map hu hd he h

theorem mem_and_slot_of_qualified? (h : u.qualified? path arity = some d) :
    d ∈ u.decls ∧ d.slot = (path, arity) := by
  refine ⟨List.mem_of_find?_eq_some h, ?_⟩
  have hfound := List.find?_some h
  simp only [Bool.and_eq_true, beq_iff_eq] at hfound
  rw [TypeDecl.slot, hfound.1, hfound.2]

/-- A qualified name denotes the declaration that has it. -/
theorem qualified?_eq_some_iff (hu : (u.decls.map TypeDecl.slot).Nodup) :
    u.qualified? path arity = some d ↔ d ∈ u.decls ∧ d.slot = (path, arity) := by
  constructor
  · exact mem_and_slot_of_qualified?
  · rintro ⟨hd, hds⟩
    obtain ⟨hpath, harity⟩ := Prod.mk.inj hds
    cases hfound : u.qualified? path arity with
    | none =>
      have hno := List.find?_eq_none.mp hfound d hd
      simp [hpath, harity] at hno
    | some e =>
      obtain ⟨he, hes⟩ := mem_and_slot_of_qualified? hfound
      rw [eq_of_slot_eq hu he hd (hes.trans hds.symm)]

/-- A simple name denotes the declaration that has it if there is no other. -/
theorem simple?_eq_some_iff (hu : u.decls.Nodup) :
    u.simple? path arity = some d ↔
      d ∈ u.decls ∧ (d.header.name = path ∧ d.header.arity = arity) ∧
        ∀ e ∈ u.decls, e.header.name = path → e.header.arity = arity → e = d := by
  have hmem : ∀ e : TypeDecl,
      e ∈ u.decls.filter (fun e => e.header.arity == arity && e.header.name == path) ↔
        e ∈ u.decls ∧ e.header.name = path ∧ e.header.arity = arity := by
    intro e
    simp [and_comm]
  constructor
  · intro h
    unfold simple? at h
    split at h
    · rename_i e hfilter
      obtain rfl : e = d := by simpa using h
      rw [hfilter] at hmem
      have he := (hmem e).mp (List.mem_singleton.mpr rfl)
      refine ⟨he.1, he.2, ?_⟩
      intro e' he' hname harity
      exact List.mem_singleton.mp ((hmem e').mpr ⟨he', hname, harity⟩)
    · simp at h
  · rintro ⟨hd, hnamed, honly⟩
    -- A list without repetition whose members are all `d` is the list of `d`.
    have hfilter : u.decls.filter (fun e => e.header.arity == arity && e.header.name == path) =
        [d] := by
      refine List.perm_singleton.mp ((List.perm_ext_iff_of_nodup (hu.filter _)
        (List.nodup_singleton d)).mpr ?_)
      intro e
      rw [hmem, List.mem_singleton]
      constructor
      · rintro ⟨he, hname, harity⟩
        exact honly e he hname harity
      · rintro rfl
        exact ⟨hd, hnamed⟩
    unfold simple?
    rw [hfilter]

/-- The order of the declarations decides no lookup. -/
theorem resolve?_eq_of_perm (hu : (u.decls.map TypeDecl.slot).Nodup)
    (h : u.decls.Perm v.decls) : u.resolve? path arity = v.resolve? path arity := by
  have hv : (v.decls.map TypeDecl.slot).Nodup := (h.map _).nodup_iff.mp hu
  have hqualified : u.qualified? path arity = v.qualified? path arity := by
    ext d
    simp only [qualified?_eq_some_iff hu, qualified?_eq_some_iff hv, h.mem_iff]
  have hsimple : u.simple? path arity = v.simple? path arity := by
    ext d
    simp only [simple?_eq_some_iff (List.Nodup.of_map _ hu),
      simple?_eq_some_iff (List.Nodup.of_map _ hv), h.mem_iff]
  simp only [resolve?, hqualified, hsimple]

end Distinct

/-! ## Lookup place by place -/

section Pointwise

variable {u v : Universe} {R : TypeDecl → TypeDecl → Prop}

/-- A path denotes declarations at the same place, or nothing in both. -/
theorem resolve?_rel (hheader : ∀ d d', R d d' → d.header = d'.header)
    (h : List.Forall₂ R u.decls v.decls) (path : String) (arity : Nat) :
    Option.Rel R (u.resolve? path arity) (v.resolve? path arity) := by
  have hqualified : Option.Rel R (u.qualified? path arity) (v.qualified? path arity) := by
    refine AccessorGen.find?_rel ?_ h
    intro d d' hd
    rw [hheader d d' hd]
  have hsimple : Option.Rel R (u.simple? path arity) (v.simple? path arity) := by
    have hfilter : List.Forall₂ R
        (u.decls.filter fun d => d.header.arity == arity && d.header.name == path)
        (v.decls.filter fun d => d.header.arity == arity && d.header.name == path) := by
      refine List.rel_filter ?_ h
      intro d d' hd
      simp only [hheader d d' hd]
    unfold simple?
    generalize u.decls.filter _ = found at hfilter
    generalize v.decls.filter _ = found' at hfilter
    cases hfilter with
    | nil => exact .none
    | cons hd hrest =>
      cases hrest with
      | nil => exact .some hd
      | cons _ _ => exact .none
  unfold resolve?
  generalize u.qualified? path arity = found at hqualified
  generalize v.qualified? path arity = found' at hqualified
  cases hqualified with
  | some hd => exact .some hd
  | none =>
    cases path.toList.contains '.' with
    | true => exact .none
    | false => exact hsimple

end Pointwise

/-! ## Canonical forms -/

/-- Canonical forms depend on a universe only by how it qualifies the paths in
the reference. -/
theorem canonical_congr {u v : Universe} {t : TypeRef}
    (h : ∀ path ∈ t.paths, ∀ arity, u.qualify path arity = v.qualify path arity) :
    u.canonical t = v.canonical t := by
  induction t with
  | named path args ih =>
    have hpath : u.qualify path args.length = v.qualify path args.length :=
      h path List.mem_cons_self args.length
    have hargs : args.map u.canonical = args.map v.canonical := by
      refine List.map_congr_left fun a ha => ih a ha fun p hp => h p ?_
      exact List.mem_cons_of_mem path (TypeRef.mem_allPaths_iff.mpr ⟨a, ha, hp⟩)
    simp only [canonical, canonicals_eq_map, hpath, hargs]
  | array element rank ih => simp only [canonical, ih h]
  | nullable inner ih => simp only [canonical, ih h]

/-- Every path in a canonical form is what a written path denotes, in normal
spelling. -/
theorem exists_of_mem_paths_canonical {u : Universe} {t : TypeRef} {path : String}
    (h : path ∈ (u.canonical t).paths) :
    ∃ written ∈ t.paths, ∃ arity, path = TypeRef.normalPath (u.qualify written arity) := by
  induction t with
  | named head args ih =>
    rw [canonical, TypeRef.generic, TypeRef.paths, canonicals_eq_map] at h
    rcases List.mem_cons.mp h with rfl | h
    · exact ⟨head, List.mem_cons_self, args.length, rfl⟩
    · obtain ⟨_, hmem, hpath⟩ := TypeRef.mem_allPaths_iff.mp h
      obtain ⟨a, ha, rfl⟩ := List.mem_map.mp hmem
      obtain ⟨written, hwritten, harity⟩ := ih a ha hpath
      refine ⟨written, List.mem_cons_of_mem head ?_, harity⟩
      exact TypeRef.mem_allPaths_iff.mpr ⟨a, ha, hwritten⟩
  | array element rank ih => exact ih h
  | nullable inner ih =>
    rw [canonical, TypeRef.paths_optional] at h
    exact ih h

theorem qualify_eq_of_rel {u v : Universe} {R : TypeDecl → TypeDecl → Prop} {path : String}
    {arity : Nat} (hheader : ∀ d d', R d d' → d.header = d'.header)
    (h : Option.Rel R (u.resolve? path arity) (v.resolve? path arity)) :
    u.qualify path arity = v.qualify path arity := by
  unfold qualify
  generalize u.resolve? path arity = found at h
  generalize v.resolve? path arity = found' at h
  cases h with
  | none => rfl
  | some hd => simp only [hheader _ _ hd]

/-- Universes with the same headers, place by place, have the same canonical
forms. -/
theorem canonical_eq_of_headers {u v : Universe} {R : TypeDecl → TypeDecl → Prop}
    (hheader : ∀ d d', R d d' → d.header = d'.header)
    (h : List.Forall₂ R u.decls v.decls) (t : TypeRef) : u.canonical t = v.canonical t :=
  canonical_congr fun path _ arity => qualify_eq_of_rel hheader (resolve?_rel hheader h path arity)

end Universe

end AccessorGen
