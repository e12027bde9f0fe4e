import AccessorGen.Conversion
import AccessorGen.Proofs.Ancestry
import AccessorGen.Proofs.Lookup

set_option autoImplicit false

/-!
# Agreement of universes

Two universes agree if every path denotes in both the same type: one header, and
base types and operators with the same canonical forms, in any order.  Nothing
the generator asks about types can tell agreeing universes apart.  What it asks
is asked about canonical forms, and the answer depends on which base types and
which operators there are, never on how or where they are written.

No answer looks further than the base types of the types it is about, so it is
enough that the universes agree on the types in play, as long as base types do
not lead out of these.
-/

namespace AccessorGen

namespace Conversions

/-- There is a conversion of that kind. -/
def has (c : Conversions) : OperatorKind → Bool
  | .implicit => c.implicit
  | .explicit => c.explicit

theorem ext_has {c d : Conversions} (h : ∀ k, c.has k = true ↔ d.has k = true) : c = d := by
  have himplicit : c.implicit = d.implicit := Bool.eq_iff_iff.mpr (h .implicit)
  have hexplicit : c.explicit = d.explicit := Bool.eq_iff_iff.mpr (h .explicit)
  cases c
  cases d
  simp_all

/-- A list of operators provides the kinds that its members are of. -/
theorem has_ofOperators_iff {operators : List ConversionOperator} {k : OperatorKind} :
    (ofOperators operators).has k = true ↔ ∃ op ∈ operators, op.kind = k := by
  cases k <;> simp [ofOperators, has]

end Conversions

/-- The operator with another spelling of its types. -/
def ConversionOperator.mapTypes (f : TypeRef → TypeRef) (op : ConversionOperator) :
    ConversionOperator :=
  ⟨op.kind, f op.parameter, f op.returns⟩

namespace Universe

/-- An operator takes part in a conversion if one of the two types declares it
and its sides are these types. -/
theorem mem_operators_iff {u : Universe} {source target : TypeRef} {op : ConversionOperator} :
    op ∈ u.operators source target ↔
      (∃ d, (u.find? source = some d ∨ u.find? target = some d) ∧ op ∈ d.operators) ∧
        u.canonical op.parameter = source ∧ u.canonical op.returns = target := by
  simp only [operators, List.mem_filter, List.mem_flatMap, List.mem_append, Option.mem_toList,
    Bool.and_eq_true, beq_iff_eq]

theorem has_declared_iff {u : Universe} {source target : TypeRef} {k : OperatorKind} :
    (u.declared source target).has k = true ↔
      ∃ d, (u.find? source = some d ∨ u.find? target = some d) ∧
        ⟨k, source, target⟩ ∈ d.operators.map (·.mapTypes u.canonical) := by
  simp only [declared, Conversions.has_ofOperators_iff, mem_operators_iff, List.mem_map,
    ConversionOperator.mapTypes, ConversionOperator.mk.injEq]
  constructor
  · rintro ⟨op, ⟨⟨d, hd, hop⟩, hsource, htarget⟩, hkind⟩
    exact ⟨d, hd, op, hop, hkind, hsource, htarget⟩
  · rintro ⟨d, hd, op, hop, hkind, hsource, htarget⟩
    exact ⟨op, ⟨⟨d, hd, hop⟩, hsource, htarget⟩, hkind⟩

end Universe

/-! ## Agreement -/

/-- Declarations of one type in two universes, in words that may differ: the
header is the same, and there are the same base types and operators. -/
structure TypeDecl.Agree (u v : Universe) (d e : TypeDecl) : Prop where
  header : d.header = e.header
  bases : ∀ p, p ∈ d.bases.map u.canonical ↔ p ∈ e.bases.map v.canonical
  operators : ∀ op, op ∈ d.operators.map (·.mapTypes u.canonical) ↔
    op ∈ e.operators.map (·.mapTypes v.canonical)

/-- Every path denotes the same type in both universes, or nothing in both. -/
def Universe.Agree (u v : Universe) : Prop :=
  ∀ path arity, Option.Rel (TypeDecl.Agree u v) (u.resolve? path arity) (v.resolve? path arity)

/-- The canonical types in play denote the same types in both universes, and
neither their base types nor the types inside nullable ones lead out of play. -/
structure Universe.AgreeOn (u v : Universe) (inPlay : TypeRef → Prop) : Prop where
  found : ∀ t, inPlay t → Option.Rel (TypeDecl.Agree u v) (u.find? t) (v.find? t)
  parents : ∀ t p, inPlay t → u.IsParent t p → inPlay p
  inner : ∀ t, inPlay (.nullable t) → inPlay t

namespace Universe.AgreeOn

variable {u v : Universe} {inPlay : TypeRef → Prop} {t source target : TypeRef}

theorem isParent_iff (h : u.AgreeOn v inPlay) (ht : inPlay t) (p : TypeRef) :
    u.IsParent t p ↔ v.IsParent t p := by
  have hfound := h.found t ht
  simp only [IsParent, Universe.parents]
  generalize u.find? t = found at hfound
  generalize v.find? t = found' at hfound
  cases hfound with
  | none => rfl
  | some hd => exact hd.bases p

/-- A chain of base types that begins in play never leaves it, so it is one in
both universes. -/
theorem transGen_isParent_iff (h : u.AgreeOn v inPlay) (ht : inPlay t) (base : TypeRef) :
    Relation.TransGen u.IsParent t base ↔ Relation.TransGen v.IsParent t base := by
  constructor
  · intro hchain
    induction hchain using Relation.TransGen.head_induction_on with
    | single hp => exact .single ((h.isParent_iff ht _).mp hp)
    | head hp _ ih => exact .head ((h.isParent_iff ht _).mp hp) (ih (h.parents _ _ ht hp))
  · intro hchain
    induction hchain using Relation.TransGen.head_induction_on with
    | single hp => exact .single ((h.isParent_iff ht _).mpr hp)
    | head hp _ ih =>
      have hp' := (h.isParent_iff ht _).mpr hp
      exact .head hp' (ih (h.parents _ _ ht hp'))

theorem hasAncestor_eq (h : u.AgreeOn v inPlay) (ht : inPlay t) (base : TypeRef) :
    u.hasAncestor t base = v.hasAncestor t base := by
  rw [Bool.eq_iff_iff, hasAncestor_iff, hasAncestor_iff, h.transGen_isParent_iff ht]

theorem isEnum_eq (h : u.AgreeOn v inPlay) (ht : inPlay t) : u.isEnum t = v.isEnum t := by
  have hfound := h.found t ht
  unfold isEnum
  generalize u.find? t = found at hfound
  generalize v.find? t = found' at hfound
  cases hfound with
  | none => rfl
  | some hd => simp [hd.header]

/-- A type that declares an operator in one universe declares it in the other. -/
theorem exists_operator_iff (h : u.AgreeOn v inPlay) (ht : inPlay t) (op : ConversionOperator) :
    (∃ d, u.find? t = some d ∧ op ∈ d.operators.map (·.mapTypes u.canonical)) ↔
      ∃ d, v.find? t = some d ∧ op ∈ d.operators.map (·.mapTypes v.canonical) := by
  have hfound := h.found t ht
  generalize u.find? t = found at hfound
  generalize v.find? t = found' at hfound
  cases hfound with
  | none => simp
  | @some d e hd =>
    constructor
    · rintro ⟨d', hd', hop⟩
      obtain rfl : d = d' := Option.some.inj hd'
      exact ⟨e, rfl, (hd.operators op).mp hop⟩
    · rintro ⟨e', he', hop⟩
      obtain rfl : e = e' := Option.some.inj he'
      exact ⟨d, rfl, (hd.operators op).mpr hop⟩

section Conversions

variable (h : u.AgreeOn v inPlay) (hs : inPlay source) (ht : inPlay target)
include h hs ht

theorem declared_eq : u.declared source target = v.declared source target := by
  refine Conversions.ext_has fun k => ?_
  simp only [has_declared_iff, or_and_right, exists_or]
  rw [h.exists_operator_iff hs, h.exists_operator_iff ht]

theorem lifted_eq : u.lifted source target = v.lifted source target := by
  unfold lifted
  split
  · exact h.declared_eq (h.inner _ hs) (h.inner _ ht)
  · exact h.declared_eq hs (h.inner _ ht)
  · rw [h.declared_eq (h.inner _ hs) ht]
  · exact h.declared_eq hs ht

theorem plain_eq : u.plain source target = v.plain source target := by
  have henum : u.isEnumAndNumber source target = v.isEnumAndNumber source target := by
    simp only [isEnumAndNumber, h.isEnum_eq hs, h.isEnum_eq ht]
  have hbases : u.alongBases source target = v.alongBases source target := by
    simp only [alongBases, h.hasAncestor_eq hs, h.hasAncestor_eq ht]
  rw [plain, plain, henum, hbases]

theorem unwrapped_eq : u.unwrapped source target = v.unwrapped source target := by
  simp only [unwrapped, h.plain_eq hs ht]

theorem builtIn_eq : u.builtIn source target = v.builtIn source target := by
  unfold builtIn
  refine ite_congr rfl (fun _ => rfl) fun _ => ite_congr rfl (fun _ => rfl) fun _ => ?_
  split
  · exact h.unwrapped_eq (h.inner _ hs) (h.inner _ ht)
  · exact h.unwrapped_eq hs (h.inner _ ht)
  · rw [h.unwrapped_eq (h.inner _ hs) ht]
  · exact h.plain_eq hs ht

end Conversions

section Relate

variable {source' target' : TypeRef} (h : u.AgreeOn v inPlay)
  (hsource : u.canonical source = v.canonical source')
  (htarget : u.canonical target = v.canonical target')
  (hs : inPlay (u.canonical source)) (ht : inPlay (u.canonical target))
include h hsource htarget hs ht

/-- Types with the same canonical forms have the same conversions. -/
theorem conversions_eq : u.conversions source target = v.conversions source' target' := by
  simp only [conversions, ← hsource, ← htarget, h.lifted_eq hs ht, h.builtIn_eq hs ht]

/-- Types with the same canonical forms are related alike; if they are not
related, the report names them as they are written. -/
theorem relate_eq :
    u.relate source target =
      (v.relate source' target').mapError fun _ => ⟨source, target⟩ := by
  simp only [relate, hsource, htarget, h.conversions_eq hsource htarget hs ht,
    h.conversions_eq htarget hsource ht hs]
  split
  · rfl
  · split <;> rfl

end Relate

/-- Types with the same canonical forms in both universes are related alike, and
the report is the same. -/
theorem relate_eq_self (h : u.AgreeOn v inPlay) (hsource : u.canonical source = v.canonical source)
    (htarget : u.canonical target = v.canonical target) (hs : inPlay (u.canonical source))
    (ht : inPlay (u.canonical target)) : u.relate source target = v.relate source target := by
  simp only [relate, hsource, htarget, h.conversions_eq hsource htarget hs ht,
    h.conversions_eq htarget hsource ht hs]

end Universe.AgreeOn

namespace Universe.Agree

variable {u v : Universe}

/-- Agreement place by place, perhaps after the declarations of the first
universe have been arranged in another way that answers lookups alike. -/
theorem of_forall₂ {arranged : Universe}
    (harranged : ∀ path arity, u.resolve? path arity = arranged.resolve? path arity)
    (h : List.Forall₂ (TypeDecl.Agree u v) arranged.decls v.decls) : u.Agree v := by
  intro path arity
  rw [harranged]
  exact resolve?_rel (fun _ _ hd => hd.header) h path arity

theorem canonical_eq (h : u.Agree v) (t : TypeRef) : u.canonical t = v.canonical t :=
  canonical_congr fun path _ arity => qualify_eq_of_rel (fun _ _ hd => hd.header) (h path arity)

theorem find?_rel (h : u.Agree v) (t : TypeRef) :
    Option.Rel (TypeDecl.Agree u v) (u.find? t) (v.find? t) := by
  cases t with
  | named path args => exact h path args.length
  | array element rank => exact .none
  | nullable inner => exact .none

/-- In agreeing universes all types are in play. -/
theorem agreeOn (h : u.Agree v) : u.AgreeOn v fun _ => True :=
  ⟨fun t _ => h.find?_rel t, fun _ _ _ _ => trivial, fun _ _ => trivial⟩

/-- Types with the same canonical forms are related alike; if they are not
related, the report names them as they are written. -/
theorem relate_eq (h : u.Agree v) {source source' target target' : TypeRef}
    (hsource : u.canonical source = v.canonical source')
    (htarget : u.canonical target = v.canonical target') :
    u.relate source target =
      (v.relate source' target').mapError fun _ => ⟨source, target⟩ :=
  h.agreeOn.relate_eq hsource htarget trivial trivial

/-- Types as they are written are related alike, and the report is the same. -/
theorem relate_eq_self (h : u.Agree v) (source target : TypeRef) :
    u.relate source target = v.relate source target :=
  h.agreeOn.relate_eq_self (h.canonical_eq source) (h.canonical_eq target) trivial trivial

end Universe.Agree

end AccessorGen
