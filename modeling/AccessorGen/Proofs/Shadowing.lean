import AccessorGen.Proofs.CanonicalForms
import AccessorGen.Proofs.Trimming

set_option autoImplicit false

/-!
# Declarations in the place of predefined types

A declaration can have the qualified name that the framework gives to a
predefined type.  A reference to it is then spelled with the keyword, and the
keyword is no name of the declaration.  So such a declaration is not found under
its own reference, while every other declaration is.

Its simple name may still denote it.  But conversions are sought between
canonical forms, and in these its name has given way to the keyword too.  What
the declaration derives from and converts to is therefore never asked for.
-/

namespace AccessorGen

namespace Predefined

theorem dot_mem_framework (p : Predefined) : '.' ∈ p.framework.toList := by
  cases p <;> decide

/-- The last segment of a framework name is neither a keyword nor a framework
name. -/
theorem ofName?_lastSegment_framework (p : Predefined) :
    ofName? (String.ofList (Text.lastSegment p.framework.toList)) = none := by
  cases p <;> decide

end Predefined

namespace TypeHeader

/-- The name is what stands behind the last dot of a qualified name. -/
theorem lastSegment_qualifiedName {h : TypeHeader} (hh : h.issues = [])
    (hscope : h.scope ≠ none) :
    Text.lastSegment h.qualifiedName.toList = h.name.toList := by
  have hdot := Identifier.dot_not_mem_of_check (check_name hh)
  obtain ⟨scope, hs⟩ := Option.ne_none_iff_exists'.mp hscope
  have hchars : h.qualifiedName.toList = scope.toList ++ '.' :: h.name.toList := by
    simp [qualifiedName, hs]
  rw [hchars, Text.lastSegment_append_dot hdot]

/-- A declaration in the place of a predefined type is not named by a keyword. -/
theorem name_ne_keyword_of_framework {h : TypeHeader} (hh : h.issues = []) {p : Predefined}
    (hframework : h.qualifiedName = p.framework) (q : Predefined) : h.name ≠ q.keyword := by
  have hscope : h.scope ≠ none := by
    rw [← dot_mem_qualifiedName_iff hh, hframework]
    exact p.dot_mem_framework
  have hnone := p.ofName?_lastSegment_framework
  rw [← hframework, lastSegment_qualifiedName hh hscope, String.ofList_toList] at hnone
  exact Predefined.ne_keyword_of_ofName?_eq_none hnone q

end TypeHeader

/-! ## Lookups -/

namespace Snapshot

section Declared

variable {s : Snapshot} {d : TypeDecl} (hvalid : s.validate = .ok ()) (hd : d ∈ s.types)
include hvalid hd

/-- A declaration whose qualified name is no framework name is found under its
own reference. -/
theorem find?_typeRef (hframework : ∀ p : Predefined, d.header.qualifiedName ≠ p.framework) :
    s.toUniverse.find? d.typeRef = some d := by
  rw [TypeDecl.typeRef, TypeHeader.typeRef_eq (header_issues_eq_nil hvalid hd) hframework,
    Universe.find?, d.header.length_args]
  exact resolve?_qualifiedName hvalid hd

variable {p : Predefined} (hframework : d.header.qualifiedName = p.framework)
include hframework

/-- No keyword denotes a declaration in the place of a predefined type. -/
theorem resolve?_keyword_ne (q : Predefined) (arity : Nat) :
    s.toUniverse.resolve? q.keyword arity ≠ some d := by
  intro hfound
  have hissues := header_issues_eq_nil hvalid hd
  have hname := (Universe.answersTo_of_resolve? hfound).2.name_eq_keyword hissues
  exact TypeHeader.name_ne_keyword_of_framework hissues hframework q hname

/-- A reference that is spelled with the qualified name does not denote the
declaration. -/
theorem find?_generic_ne (args : List TypeRef) :
    s.toUniverse.find? (.generic d.header.qualifiedName args) ≠ some d := by
  rw [TypeRef.generic, hframework, TypeRef.normalPath_framework]
  exact resolve?_keyword_ne hvalid hd hframework p args.length

/-- Nor does the canonical form of a reference whose path is in normal spelling,
even if the reference itself does. -/
theorem find?_canonical_named_ne {path : String} (hnormal : TypeRef.normalPath path = path)
    (args : List TypeRef) :
    s.toUniverse.find? (s.toUniverse.canonical (.named path args)) ≠ some d := by
  rw [Universe.canonical, Universe.canonicals_eq_map, TypeRef.generic, Universe.find?,
    List.length_map]
  obtain ⟨hnone, hpath⟩ | ⟨q, hpath⟩ | ⟨e, hother, hfound, -, hpath⟩ :=
    canonicalPath_cases hvalid hnormal args.length
  · rw [hpath, hnone]
    exact (Option.some_ne_none d).symm
  · rw [hpath]
    exact resolve?_keyword_ne hvalid hd hframework q args.length
  · -- The qualified name of another declaration denotes that one.
    rw [hpath, hfound]
    intro hed
    rw [Option.some.inj hed] at hother
    exact hother p hframework

theorem find?_canonical_ne {t : TypeRef} (ht : t.IsNormal) :
    s.toUniverse.find? (s.toUniverse.canonical t) ≠ some d := by
  cases t with
  | named path args =>
    obtain ⟨hnormal, -⟩ := TypeRef.isNormal_named_iff.mp ht
    exact find?_canonical_named_ne hvalid hd hframework hnormal args
  | array element rank =>
    rw [Universe.canonical, TypeRef.arrayOf, Universe.find?_array]
    exact (Option.some_ne_none d).symm
  | nullable inner =>
    rw [Universe.canonical, s.toUniverse.find?_of_isNullable (TypeRef.isNullable_optional _)]
    exact (Option.some_ne_none d).symm

end Declared

end Snapshot

/-! ## Another declaration of the same header -/

namespace Universe

/-- The universe with one declaration in place of another. -/
def redeclare (u : Universe) (d d' : TypeDecl) : Universe :=
  ⟨u.decls.map fun e => if e = d then d' else e⟩

/-- Declarations at the same place before and after one is replaced. -/
def Replaced (d d' e e' : TypeDecl) : Prop := e' = if e = d then d' else e

theorem header_eq_of_replaced {d d' e e' : TypeDecl} (hheader : d'.header = d.header)
    (h : Replaced d d' e e') : e.header = e'.header := by
  rw [h]
  split
  · rename_i hed
    rw [hed, hheader]
  · rfl

theorem forall₂_redeclare (u : Universe) (d d' : TypeDecl) :
    List.Forall₂ (Replaced d d') u.decls (u.redeclare d d').decls :=
  List.forall₂_map_right_iff.mpr (List.forall₂_same.mpr fun _ _ => rfl)

section Redeclare

variable {u : Universe} {d d' : TypeDecl} (hheader : d'.header = d.header)
include hheader

/-- Canonical forms are settled by the headers. -/
theorem canonical_redeclare (t : TypeRef) : u.canonical t = (u.redeclare d d').canonical t :=
  canonical_eq_of_headers (fun _ _ => header_eq_of_replaced hheader) (u.forall₂_redeclare d d') t

/-- A declaration that stays reads the same beside the new one. -/
theorem agree_redeclare (e : TypeDecl) : TypeDecl.Agree u (u.redeclare d d') e e := by
  have hcanonical : u.canonical = (u.redeclare d d').canonical :=
    funext (canonical_redeclare hheader)
  refine ⟨rfl, ?_, ?_⟩
  · intro p
    rw [hcanonical]
  · intro op
    rw [hcanonical]

/-- What denotes another declaration, or none, still does. -/
theorem find?_redeclare {t : TypeRef} (ht : u.find? t ≠ some d) :
    Option.Rel (TypeDecl.Agree u (u.redeclare d d')) (u.find? t)
      ((u.redeclare d d').find? t) := by
  cases t with
  | named path args =>
    have hrel := resolve?_rel (fun _ _ => header_eq_of_replaced hheader)
      (u.forall₂_redeclare d d') path args.length
    rw [find?] at ht ⊢
    rw [find?]
    generalize (u.redeclare d d').resolve? path args.length = found' at hrel
    cases hfound : u.resolve? path args.length with
    | none =>
      rw [hfound] at hrel
      cases hrel
      exact .none
    | some e =>
      rw [hfound] at hrel ht
      cases hrel with
      | some hreplaced =>
        have hne : e ≠ d := fun hed => ht (congrArg some hed)
        rw [Replaced, if_neg hne] at hreplaced
        rw [hreplaced]
        exact .some (agree_redeclare hheader e)
  | array element rank => exact .none
  | nullable inner => exact .none

end Redeclare

end Universe

namespace Snapshot

/-- The canonical forms of references in normal form are in play: none of them
denotes a declaration in the place of a predefined type, so that the body of
that declaration can be exchanged. -/
theorem agreeOn_redeclare {s : Snapshot} {d d' : TypeDecl} {p : Predefined}
    (hvalid : s.validate = .ok ()) (hd : d ∈ s.types)
    (hframework : d.header.qualifiedName = p.framework) (hheader : d'.header = d.header)
    (hbases : ∀ e ∈ s.types, ∀ base ∈ e.bases, base.IsNormal) :
    s.toUniverse.AgreeOn (s.toUniverse.redeclare d d')
      fun c => ∃ t : TypeRef, t.IsNormal ∧ s.toUniverse.canonical t = c where
  found := by
    intro c hc
    obtain ⟨t, ht, rfl⟩ := hc
    exact Universe.find?_redeclare hheader (find?_canonical_ne hvalid hd hframework ht)
  parents := by
    intro c base _ hparent
    obtain ⟨e, hfound, base, hbase, rfl⟩ := Universe.isParent_iff.mp hparent
    have he : e ∈ s.types := by
      cases c with
      | named path args => exact Universe.mem_of_resolve? hfound
      | array element rank => simp at hfound
      | nullable inner => simp at hfound
    exact ⟨base, hbases e he base hbase, rfl⟩
  inner := by
    intro c hc
    obtain ⟨t, ht, hcanonical⟩ := hc
    cases t with
    | named path args => simp [Universe.canonical, TypeRef.generic] at hcanonical
    | array element rank => simp [Universe.canonical, TypeRef.arrayOf] at hcanonical
    | nullable inner =>
      obtain ⟨hinner, honce⟩ := TypeRef.isNormal_nullable_iff.mp ht
      refine ⟨inner, hinner, ?_⟩
      have hbare : inner.isNullable = false := by
        cases inner with
        | named path args => rfl
        | array element rank => rfl
        | nullable t => exact absurd rfl (honce t)
      rw [Universe.canonical, TypeRef.optional_of_isNullable_eq_false
        ((s.toUniverse.isNullable_canonical inner).trans hbare)] at hcanonical
      exact TypeRef.nullable.inj hcanonical

/-- In a valid snapshot a declaration is found under its own reference exactly
if its qualified name is not the framework name of a predefined type.

If it is, then no reference that is spelled with that name denotes the
declaration, whatever its arguments, and neither does its canonical form.  What
the declaration derives from and converts to can be replaced by anything: as
long as base types are in normal form, nothing changes in the operators that
join two references in normal form, in the question whether one derives from
the other, and in the conversions between them. -/
theorem found_iff_not_predefined {s : Snapshot} {d : TypeDecl} (hvalid : s.validate = .ok ())
    (hd : d ∈ s.types) :
    (s.toUniverse.find? d.typeRef = some d ↔
      ∀ p : Predefined, d.header.qualifiedName ≠ p.framework) ∧
    ∀ p : Predefined, d.header.qualifiedName = p.framework →
      (∀ args : List TypeRef,
        s.toUniverse.find? (.generic d.header.qualifiedName args) ≠ some d ∧
        s.toUniverse.find? (s.toUniverse.canonical (.generic d.header.qualifiedName args)) ≠
          some d) ∧
      ((∀ e ∈ s.types, ∀ base ∈ e.bases, base.IsNormal) →
        ∀ d' : TypeDecl, d'.header = d.header →
        ∀ source target : TypeRef, source.IsNormal → target.IsNormal →
          (s.toUniverse.redeclare d d').byOperators source target =
            s.toUniverse.byOperators source target ∧
          (s.toUniverse.redeclare d d').derivesFrom source target =
            s.toUniverse.derivesFrom source target ∧
          (s.toUniverse.redeclare d d').conversions source target =
            s.toUniverse.conversions source target) := by
  constructor
  · constructor
    · intro hfound p hframework
      rw [TypeDecl.typeRef, TypeHeader.typeRef] at hfound
      exact find?_generic_ne hvalid hd hframework _ hfound
    · exact find?_typeRef hvalid hd
  · intro p hframework
    constructor
    · intro args
      refine ⟨find?_generic_ne hvalid hd hframework args, ?_⟩
      rw [TypeRef.generic, hframework, TypeRef.normalPath_framework]
      exact find?_canonical_named_ne hvalid hd hframework (TypeRef.normalPath_keyword p) args
    · intro hbases d' hheader source target hsource htarget
      have hagree := agreeOn_redeclare hvalid hd hframework hheader hbases
      have hs := Universe.canonical_redeclare (u := s.toUniverse) hheader source
      have ht := Universe.canonical_redeclare (u := s.toUniverse) hheader target
      refine ⟨?_, ?_, ?_⟩
      · rw [Universe.byOperators, Universe.byOperators, ← hs, ← ht]
        exact (hagree.declared_eq ⟨source, hsource, rfl⟩ ⟨target, htarget, rfl⟩).symm
      · rw [Universe.derivesFrom, Universe.derivesFrom, ← hs, ← ht]
        exact (hagree.hasAncestor_eq ⟨source, hsource, rfl⟩ _).symm
      · exact (hagree.conversions_eq hs ht ⟨source, hsource, rfl⟩ ⟨target, htarget, rfl⟩).symm

end Snapshot

/-! ## A number with an operator -/

namespace Ledger

def meters : TypeDecl := ⟨⟨some "Geo", "Meters", .structType, []⟩, [], none, []⟩

/-- A type in the place of `int` that converts to lengths. -/
def number : TypeDecl :=
  ⟨⟨some "System", "Int32", .structType, []⟩, [.named "Geo.Meters" []], none,
    [⟨.implicit, .named "Int32" [], .named "Geo.Meters" []⟩]⟩

def snapshot : Snapshot := ⟨[number, meters], []⟩

/-- The length is found under its own reference.  The number is found under its
simple name only, and its operator is lost there too. -/
theorem number_not_consulted :
    snapshot.validate = .ok () ∧ number ∈ snapshot.types ∧ meters ∈ snapshot.types ∧
      number.header.qualifiedName = Predefined.int.framework ∧
      snapshot.toUniverse.find? meters.typeRef = some meters ∧
      snapshot.toUniverse.find? number.typeRef ≠ some number ∧
      snapshot.toUniverse.find? (.generic "System.Int32" []) ≠ some number ∧
      snapshot.toUniverse.find? (.named "Int32" []) = some number ∧
      snapshot.toUniverse.byOperators (.named "Int32" []) (.named "Geo.Meters" []) = .none := by
  have hvalid : snapshot.validate = .ok () := by rfl
  have hnumber : number ∈ snapshot.types := List.mem_cons_self
  have hmeters : meters ∈ snapshot.types := List.mem_cons_of_mem _ List.mem_cons_self
  have hframework : number.header.qualifiedName = Predefined.int.framework := by rfl
  have hother : ∀ p : Predefined, meters.header.qualifiedName ≠ p.framework := by
    intro p
    cases p <;> decide
  obtain ⟨hfound, -⟩ := Snapshot.found_iff_not_predefined hvalid hmeters
  obtain ⟨hlost, hshadowed⟩ := Snapshot.found_iff_not_predefined hvalid hnumber
  obtain ⟨hgeneric, hbody⟩ := hshadowed .int hframework
  have hbases : ∀ e ∈ snapshot.types, ∀ base ∈ e.bases, base.IsNormal := by decide
  have hbare := (hbody hbases ⟨number.header, [], none, []⟩ rfl (.named "Int32" [])
    (.named "Geo.Meters" []) (by decide) (by decide)).1
  refine ⟨hvalid, hnumber, hmeters, hframework, hfound.mpr hother, ?_, (hgeneric []).1, rfl, ?_⟩
  · exact fun h => hlost.mp h .int hframework
  · exact hbare.symm.trans rfl

end Ledger

end AccessorGen
