import AccessorGen.Proofs.Nullable
import AccessorGen.Proofs.RoundTrip
import AccessorGen.Proofs.Unrelated

set_option autoImplicit false

/-!
# Canonical forms

A canonical form is looked up again when conversions are sought, so it has to
mean what the reference meant.  In a valid snapshot a qualified name denotes the
declaration that has it, and the canonical path of a declaration is its
qualified name, or the keyword if that is a framework name.  As long as no
declaration is named by a keyword, a keyword denotes nothing declared.  Hence a
second search for names changes nothing, and the canonical path tells which
declaration it stands for.
-/

namespace AccessorGen

/-! ## Keywords and framework names -/

namespace Predefined

theorem isPlain_keyword (p : Predefined) : Text.IsPlain p.keyword.toList := by
  cases p <;> decide

theorem isPlain_framework (p : Predefined) : Text.IsPlain p.framework.toList := by
  cases p <;> decide

theorem ne_keyword_of_ofName?_eq_none {name : String} (h : ofName? name = none) (p : Predefined) :
    name ≠ p.keyword := by
  intro hname
  rw [hname, ofName?_keyword] at h
  exact absurd h (Option.some_ne_none p)

end Predefined

namespace TypeRef

theorem normalPath_keyword (p : Predefined) : normalPath p.keyword = p.keyword := by
  rw [normalPath_of_isPlain p.isPlain_keyword, Predefined.ofName?_keyword]
  rfl

theorem normalPath_framework (p : Predefined) : normalPath p.framework = p.keyword := by
  rw [normalPath_of_isPlain p.isPlain_framework, Predefined.ofName?_framework]
  rfl

end TypeRef

namespace TypeHeader

/-- The qualified name of a valid header is in normal spelling, unless it is a
framework name and gives way to the keyword. -/
theorem normalPath_qualifiedName_cases {h : TypeHeader} (hh : h.issues = []) :
    (∃ p : Predefined, h.qualifiedName = p.framework ∧
      TypeRef.normalPath h.qualifiedName = p.keyword) ∨
    ((∀ p : Predefined, h.qualifiedName ≠ p.framework) ∧
      TypeRef.normalPath h.qualifiedName = h.qualifiedName) := by
  by_cases hframework : ∃ p : Predefined, h.qualifiedName = p.framework
  · obtain ⟨p, hp⟩ := hframework
    refine .inl ⟨p, hp, ?_⟩
    rw [hp, TypeRef.normalPath_framework]
  · have hnone : ∀ p : Predefined, h.qualifiedName ≠ p.framework := not_exists.mp hframework
    exact .inr ⟨hnone, TypeRef.normalPath_eq_self (isPlain_qualifiedName hh) hnone⟩

/-- A valid header answers to a keyword only if the keyword is its name. -/
theorem AnswersTo.name_eq_keyword {h : TypeHeader} (hh : h.issues = []) {p : Predefined}
    (hanswers : h.AnswersTo p.keyword) : h.name = p.keyword :=
  (hanswers.eq_name hh p.dot_not_mem_keyword).symm

/-- Among headers that are not named by keywords, the canonical path tells the
qualified name. -/
theorem normalPath_qualifiedName_inj {a b : TypeHeader} (ha : a.issues = []) (hb : b.issues = [])
    (hakeyword : ∀ p : Predefined, a.name ≠ p.keyword)
    (hbkeyword : ∀ p : Predefined, b.name ≠ p.keyword) :
    TypeRef.normalPath a.qualifiedName = TypeRef.normalPath b.qualifiedName ↔
      a.qualifiedName = b.qualifiedName := by
  constructor
  · intro h
    obtain ⟨p, hap, hanormal⟩ | ⟨-, hanormal⟩ := normalPath_qualifiedName_cases ha
    · obtain ⟨q, hbq, hbnormal⟩ | ⟨-, hbnormal⟩ := normalPath_qualifiedName_cases hb
      · -- A keyword belongs to one framework name.
        rw [hanormal, hbnormal] at h
        have hpq : some p = some q := by
          rw [← Predefined.ofName?_keyword p, h, Predefined.ofName?_keyword]
        rw [hap, hbq, Option.some.inj hpq]
      · rw [hanormal, hbnormal] at h
        exact absurd (AnswersTo.name_eq_keyword hb (.inr h)) (hbkeyword p)
    · obtain ⟨q, -, hbnormal⟩ | ⟨-, hbnormal⟩ := normalPath_qualifiedName_cases hb
      · rw [hanormal, hbnormal] at h
        exact absurd (AnswersTo.name_eq_keyword ha (.inr h.symm)) (hakeyword q)
      · rw [hanormal, hbnormal] at h
        exact h
  · intro h
    rw [h]

end TypeHeader

/-! ## Lookups of canonical paths -/

namespace Universe

/-- What a path denotes has the right number of parameters and answers to the
path. -/
theorem answersTo_of_resolve? {u : Universe} {path : String} {arity : Nat} {d : TypeDecl}
    (h : u.resolve? path arity = some d) : d.header.arity = arity ∧ d.header.AnswersTo path := by
  unfold resolve? at h
  split at h
  · rename_i e hqualified
    obtain rfl : e = d := Option.some.inj h
    obtain ⟨hpath, harity⟩ := Prod.mk.inj (mem_and_slot_of_qualified? hqualified).2
    exact ⟨harity, .inr hpath.symm⟩
  · split at h
    · simp at h
    · unfold simple? at h
      split at h
      · rename_i e hfilter
        obtain rfl : e = d := Option.some.inj h
        have hmem : e ∈ [e] := List.mem_singleton.mpr rfl
        rw [← hfilter, List.mem_filter, Bool.and_eq_true, beq_iff_eq, beq_iff_eq] at hmem
        exact ⟨hmem.2.1, .inl hmem.2.2.symm⟩
      · simp at h

theorem qualify_of_resolve?_eq_none {u : Universe} {path : String} {arity : Nat}
    (h : u.resolve? path arity = none) : u.qualify path arity = path := by
  rw [qualify, h]

theorem qualify_of_resolve?_eq_some {u : Universe} {path : String} {arity : Nat} {d : TypeDecl}
    (h : u.resolve? path arity = some d) : u.qualify path arity = d.header.qualifiedName := by
  rw [qualify, h]

end Universe

namespace Snapshot

/-- The canonical path of a path in normal spelling: the path itself if it denotes
nothing, a keyword, or the qualified name of the declaration that it denotes, by
which that declaration is found again. -/
theorem canonicalPath_cases {s : Snapshot} (hvalid : s.validate = .ok ()) {path : String}
    (hnormal : TypeRef.normalPath path = path) (arity : Nat) :
    (s.toUniverse.resolve? path arity = none ∧
      TypeRef.normalPath (s.toUniverse.qualify path arity) = path) ∨
    (∃ p : Predefined, TypeRef.normalPath (s.toUniverse.qualify path arity) = p.keyword) ∨
    ∃ d : TypeDecl, (∀ p : Predefined, d.header.qualifiedName ≠ p.framework) ∧
      s.toUniverse.resolve? d.header.qualifiedName arity = some d ∧
      TypeRef.normalPath d.header.qualifiedName = d.header.qualifiedName ∧
      TypeRef.normalPath (s.toUniverse.qualify path arity) = d.header.qualifiedName := by
  cases hfound : s.toUniverse.resolve? path arity with
  | none =>
    rw [Universe.qualify_of_resolve?_eq_none hfound]
    exact .inl ⟨rfl, hnormal⟩
  | some d =>
    have hd : d ∈ s.types := Universe.mem_of_resolve? hfound
    rw [Universe.qualify_of_resolve?_eq_some hfound]
    obtain ⟨p, -, hpath⟩ | ⟨hframework, hpath⟩ :=
      TypeHeader.normalPath_qualifiedName_cases (header_issues_eq_nil hvalid hd)
    · exact .inr (.inl ⟨p, hpath⟩)
    · have hagain := resolve?_qualifiedName hvalid hd
      rw [(Universe.answersTo_of_resolve? hfound).1] at hagain
      exact .inr (.inr ⟨d, hframework, hagain, hpath, hpath⟩)

section Valid

variable {s : Snapshot} (hvalid : s.validate = .ok ())
  (hkeyword : ∀ d ∈ s.types, ∀ p : Predefined, d.header.name ≠ p.keyword)
include hvalid hkeyword

/-- Where no declaration is named by a keyword, a keyword denotes nothing
declared. -/
theorem resolve?_keyword (p : Predefined) (arity : Nat) :
    s.toUniverse.resolve? p.keyword arity = none := by
  cases hfound : s.toUniverse.resolve? p.keyword arity with
  | none => rfl
  | some d =>
    have hd : d ∈ s.types := Universe.mem_of_resolve? hfound
    have hanswers := (Universe.answersTo_of_resolve? hfound).2
    have hname := hanswers.name_eq_keyword (header_issues_eq_nil hvalid hd)
    exact absurd hname (hkeyword d hd p)

/-- A canonical path is in normal spelling and is qualified already. -/
theorem qualify_canonicalPath {path : String} (hnormal : TypeRef.normalPath path = path)
    (arity : Nat) :
    TypeRef.normalPath (s.toUniverse.qualify
        (TypeRef.normalPath (s.toUniverse.qualify path arity)) arity) =
      TypeRef.normalPath (s.toUniverse.qualify path arity) := by
  obtain ⟨-, hpath⟩ | ⟨p, hpath⟩ | ⟨d, -, hfound, hspelling, hpath⟩ :=
    canonicalPath_cases hvalid hnormal arity
  · rw [hpath, hpath]
  · rw [hpath, Universe.qualify_of_resolve?_eq_none (resolve?_keyword hvalid hkeyword p arity),
      TypeRef.normalPath_keyword]
  · rw [hpath, Universe.qualify_of_resolve?_eq_some hfound, hspelling]

/-- The canonical form of a canonical form is that form. -/
theorem canonical_canonical {t : TypeRef} (ht : t.IsNormal) :
    s.toUniverse.canonical (s.toUniverse.canonical t) = s.toUniverse.canonical t := by
  induction t with
  | named path args ih =>
    obtain ⟨hpath, hargs⟩ := TypeRef.isNormal_named_iff.mp ht
    have hmap : (args.map s.toUniverse.canonical).map s.toUniverse.canonical =
        args.map s.toUniverse.canonical := by
      rw [List.map_map]
      exact List.map_congr_left fun a ha => ih a ha (hargs a ha)
    simp only [Universe.canonical, Universe.canonicals_eq_map, TypeRef.generic, List.length_map,
      qualify_canonicalPath hvalid hkeyword hpath, hmap]
  | array element rank ih =>
    obtain ⟨helement, hrank⟩ := TypeRef.isNormal_array_iff.mp ht
    have harray : TypeRef.arrayOf (s.toUniverse.canonical element) rank =
        .array (s.toUniverse.canonical element) rank :=
      TypeRef.arrayOf_eq_array_iff.mpr ⟨rfl, hrank⟩
    rw [Universe.canonical, harray, Universe.canonical, ih helement, harray]
  | nullable inner ih =>
    obtain ⟨hinner, -⟩ := TypeRef.isNormal_nullable_iff.mp ht
    rw [Universe.canonical, Universe.canonical_optional, ih hinner]

/-- References that denote declarations have one canonical form exactly if they
denote one declaration and their arguments have the same canonical forms. -/
theorem canonical_eq_iff_of_find? {path path' : String} {args args' : List TypeRef}
    {d e : TypeDecl} (hd : s.toUniverse.find? (.named path args) = some d)
    (he : s.toUniverse.find? (.named path' args') = some e) :
    s.toUniverse.canonical (.named path args) = s.toUniverse.canonical (.named path' args') ↔
      d = e ∧ args.map s.toUniverse.canonical = args'.map s.toUniverse.canonical := by
  have hdmem : d ∈ s.types := Universe.mem_of_resolve? hd
  have hemem : e ∈ s.types := Universe.mem_of_resolve? he
  have hdarity : d.header.arity = args.length := (Universe.answersTo_of_resolve? hd).1
  have hearity : e.header.arity = args'.length := (Universe.answersTo_of_resolve? he).1
  have hdqualify : s.toUniverse.qualify path args.length = d.header.qualifiedName :=
    Universe.qualify_of_resolve?_eq_some hd
  have hequalify : s.toUniverse.qualify path' args'.length = e.header.qualifiedName :=
    Universe.qualify_of_resolve?_eq_some he
  rw [Universe.canonical, Universe.canonical, Universe.canonicals_eq_map,
    Universe.canonicals_eq_map, hdqualify, hequalify, TypeRef.generic, TypeRef.generic,
    TypeRef.named.injEq,
    TypeHeader.normalPath_qualifiedName_inj (header_issues_eq_nil hvalid hdmem)
      (header_issues_eq_nil hvalid hemem) (hkeyword d hdmem) (hkeyword e hemem)]
  refine and_congr_left fun hargs => ?_
  constructor
  · intro hname
    have hlength : args.length = args'.length := by
      rw [← List.length_map s.toUniverse.canonical, hargs, List.length_map]
    have hslot : d.slot = e.slot := by
      rw [TypeDecl.slot, TypeDecl.slot, hname, hdarity, hearity, hlength]
    exact Universe.eq_of_slot_eq (u := s.toUniverse) (slots_nodup hvalid) hdmem hemem hslot
  · intro hde
    rw [hde]

end Valid

/-- In a valid snapshot whose declarations are not named by keywords, canonical
forms are normal forms that tell declarations apart.  The canonical form of a
reference in normal form is its own canonical form.  Two references that denote
declarations have the same canonical form exactly if they denote the same one
(the entries of a valid snapshot are pairwise different) and the canonical forms
of their arguments are pairwise the same. -/
theorem canonical_identifies_declarations {s : Snapshot} (hvalid : s.validate = .ok ())
    (hkeyword : ∀ d ∈ s.types, ∀ p : Predefined, d.header.name ≠ p.keyword) :
    (∀ t : TypeRef, t.IsNormal →
      s.toUniverse.canonical (s.toUniverse.canonical t) = s.toUniverse.canonical t) ∧
    ∀ (path path' : String) (args args' : List TypeRef) (d e : TypeDecl),
      s.toUniverse.find? (.named path args) = some d →
      s.toUniverse.find? (.named path' args') = some e →
      (s.toUniverse.canonical (.named path args) = s.toUniverse.canonical (.named path' args') ↔
        d = e ∧ args.map s.toUniverse.canonical = args'.map s.toUniverse.canonical) := by
  constructor
  · intro t ht
    exact canonical_canonical hvalid hkeyword ht
  · intro path path' args args' d e hd he
    exact canonical_eq_iff_of_find? hvalid hkeyword hd he

end Snapshot

/-! ## A grid of lengths -/

namespace Atlas

/-- A length, a grid of anything, and a type in the place of a predefined one. -/
def snapshot : Snapshot :=
  ⟨[⟨⟨some "Geo", "Meters", .structType, []⟩, [], none, []⟩,
    ⟨⟨some "Geo", "Grid", .classType, ["T"]⟩, [], none, []⟩,
    ⟨⟨some "System", "Int32", .structType, []⟩, [], none, []⟩], []⟩

def meters : TypeRef := .named "Meters" []

/-- Rows of lengths that may be missing. -/
def rows : TypeRef := .array (.nullable meters) 1

/-- The same with the namespace written out. -/
def qualifiedRows : TypeRef := .array (.nullable (.named "Geo.Meters" [])) 1

theorem name_ne_keyword : ∀ d ∈ snapshot.types, ∀ p : Predefined, d.header.name ≠ p.keyword := by
  intro d hd
  have hnone : ∀ e ∈ snapshot.types, Predefined.ofName? e.header.name = none := by decide
  exact Predefined.ne_keyword_of_ofName?_eq_none (hnone d hd)

/-- A grid of such rows has one canonical form however it is written; it differs
from that of a grid of numbers, which are meant by the name of the type in the
place of the predefined one. -/
theorem canonical_grid :
    snapshot.validate = .ok () ∧
      (∀ d ∈ snapshot.types, ∀ p : Predefined, d.header.name ≠ p.keyword) ∧
      (TypeRef.named "Grid" [rows]).IsNormal ∧
      snapshot.toUniverse.canonical (snapshot.toUniverse.canonical (.named "Grid" [rows])) =
        snapshot.toUniverse.canonical (.named "Grid" [rows]) ∧
      snapshot.toUniverse.canonical (.named "Grid" [rows]) =
        snapshot.toUniverse.canonical (.named "Geo.Grid" [qualifiedRows]) ∧
      snapshot.toUniverse.canonical (.named "Int32" []) ≠
        snapshot.toUniverse.canonical meters := by
  have hvalid : snapshot.validate = .ok () := by rfl
  have hnormal : (TypeRef.named "Grid" [rows]).IsNormal := by decide
  obtain ⟨hagain, hsame⟩ := Snapshot.canonical_identifies_declarations hvalid name_ne_keyword
  have hgrid := hsame "Grid" "Geo.Grid" [rows] [qualifiedRows] _ _ rfl rfl
  have hint := hsame "Int32" "Meters" [] [] _ _ rfl rfl
  refine ⟨hvalid, name_ne_keyword, hnormal, hagain _ hnormal, hgrid.mpr ⟨rfl, rfl⟩, ?_⟩
  intro heq
  exact absurd (hint.mp heq).1 (by decide)

end Atlas

end AccessorGen
