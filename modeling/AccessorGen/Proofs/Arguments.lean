import AccessorGen.Directive.Arguments
import Mathlib.Data.List.Forall2

set_option autoImplicit false

/-!
# What a directive accepts

A directive accepts a type, a policy and a truth value, in this order, each of
which may be missing, and nothing else.  The table of shapes lists these eight
combinations.  What is wrong with other arguments is told in a fixed order: that
there are too many, then the first member of the policy enum that means no
policy, then what kinds of arguments there are.
-/

namespace AccessorGen

/-! ## Literals and what they mean -/

namespace AccessPolicy

theorem ofName?_eq_some_iff {name : String} {p : AccessPolicy} :
    ofName? name = some p ↔ name = p.name := by
  constructor
  · intro h
    have hfound := List.find?_some h
    rw [beq_iff_eq] at hfound
    exact hfound.symm
  · intro h
    rw [h, ofName?_name]

theorem ofFlag?_eq_some_iff {flags : Int} {p : AccessPolicy} :
    ofFlag? flags = some p ↔ flags = p.flag := by
  constructor
  · intro h
    have hfound := List.find?_some h
    rw [beq_iff_eq] at hfound
    exact hfound.symm
  · intro h
    rw [h, ofFlag?_flag]

end AccessPolicy

/-- The member means the policy: what stands behind the last dot of a name is
the policy's name, perhaps among white space; a value is the policy's flag. -/
def EnumMember.Means (p : AccessPolicy) : EnumMember → Prop
  | .byName name => Text.trimChars (Text.lastSegment name.toList) = p.name.toList
  | .byValue value => value.toInt = p.flag

namespace EnumLiteral

/-- The literal is written as a member of the policy enum. -/
def IsOfPolicies (l : EnumLiteral) : Prop := l.simpleName ∈ Directive.policyEnums

instance (l : EnumLiteral) : Decidable l.IsOfPolicies :=
  inferInstanceAs (Decidable (_ ∈ Directive.policyEnums))

/-- The literal is written as a member of the policy enum and means no policy. -/
def IsUnknown (l : EnumLiteral) : Prop := l.IsOfPolicies ∧ ∀ p, ¬ l.member.Means p

end EnumLiteral

namespace Directive

theorem policy?_eq_some_iff {m : EnumMember} {p : AccessPolicy} :
    policy? m = some p ↔ m.Means p := by
  cases m with
  | byName name =>
    rw [policy?, AccessPolicy.ofName?_eq_some_iff, EnumMember.Means, ← String.toList_inj,
      String.toList_ofList]
  | byValue value => exact AccessPolicy.ofFlag?_eq_some_iff

theorem policy?_eq_none_iff {m : EnumMember} : policy? m = none ↔ ∀ p, ¬ m.Means p := by
  rw [Option.eq_none_iff_forall_ne_some]
  exact forall_congr' fun p => not_congr policy?_eq_some_iff

/-- The literal is a way to write the argument. -/
inductive Spells : Literal → Argument → Prop where
  | type (t : TypeRef) : Spells (.type t) (.type t)
  | policy {l : EnumLiteral} {p : AccessPolicy} (henum : l.IsOfPolicies)
      (hmeans : l.member.Means p) : Spells (.enum l) (.policy p)
  | bool (b : Bool) : Spells (.bool b) (.bool b)
  | otherEnum {l : EnumLiteral} (henum : ¬ l.IsOfPolicies) : Spells (.enum l) .otherEnum

/-- What kind of argument the literal is, whether or not it can be understood. -/
def kindOf : Literal → ArgumentKind
  | .type _ => .type
  | .bool _ => .bool
  | .enum l => if l.IsOfPolicies then .policy else .otherEnum

theorem Spells.kind_eq {l : Literal} {arg : Argument} (h : Spells l arg) : arg.kind = kindOf l := by
  cases h with
  | type t => rfl
  | policy henum _ =>
    rw [kindOf, if_pos henum]
    rfl
  | bool b => rfl
  | otherEnum henum =>
    rw [kindOf, if_neg henum]
    rfl

theorem contains_simpleName_iff {l : EnumLiteral} :
    policyEnums.contains l.simpleName = true ↔ l.IsOfPolicies :=
  List.contains_iff_mem

/-- A literal is recognized as what it spells. -/
theorem Argument.ofLiteral_eq_ok_iff {l : Literal} {arg : Argument} :
    ofLiteral l = .ok arg ↔ Spells l arg := by
  constructor
  · intro h
    cases l with
    | type t =>
      obtain rfl := Except.ok.inj h
      exact .type t
    | bool b =>
      obtain rfl := Except.ok.inj h
      exact .bool b
    | enum l =>
      rw [ofLiteral] at h
      split at h
      · rename_i henum
        split at h
        · rename_i p hp
          obtain rfl := Except.ok.inj h
          exact .policy (contains_simpleName_iff.mp henum) (policy?_eq_some_iff.mp hp)
        · exact absurd h nofun
      · rename_i henum
        obtain rfl := Except.ok.inj h
        exact .otherEnum (mt contains_simpleName_iff.mpr henum)
  · intro h
    cases h with
    | type t => rfl
    | bool b => rfl
    | policy henum hmeans =>
      rw [ofLiteral, if_pos (contains_simpleName_iff.mpr henum), policy?_eq_some_iff.mpr hmeans]
    | otherEnum henum => rw [ofLiteral, if_neg (mt contains_simpleName_iff.mp henum)]

/-- Only a member of the policy enum that means no policy is not recognized. -/
theorem Argument.ofLiteral_eq_error_iff {l : Literal} {fault : Fault} :
    ofLiteral l = .error fault ↔
      ∃ e : EnumLiteral, l = .enum e ∧ e.IsUnknown ∧
        fault = .unknownPolicy e.enumName e.member.text := by
  constructor
  · intro h
    cases l with
    | type t => exact absurd h nofun
    | bool b => exact absurd h nofun
    | enum l =>
      rw [ofLiteral] at h
      split at h
      · rename_i henum
        split at h
        · exact absurd h nofun
        · rename_i hnone
          have hunknown : l.IsUnknown :=
            ⟨contains_simpleName_iff.mp henum, policy?_eq_none_iff.mp hnone⟩
          exact ⟨l, rfl, hunknown, (Except.error.inj h).symm⟩
      · exact absurd h nofun
  · intro h
    obtain ⟨e, rfl, ⟨henum, hmeans⟩, rfl⟩ := h
    rw [ofLiteral, if_pos (contains_simpleName_iff.mpr henum), policy?_eq_none_iff.mpr hmeans]

theorem Argument.exists_ofLiteral_eq_ok_iff {l : Literal} :
    (∃ arg, ofLiteral l = .ok arg) ↔ ∀ e, l = .enum e → ¬ e.IsUnknown := by
  constructor
  · intro h e hl hunknown
    obtain ⟨arg, harg⟩ := h
    have herror := ofLiteral_eq_error_iff.mpr ⟨e, hl, hunknown, rfl⟩
    exact absurd (harg.symm.trans herror) nofun
  · intro h
    cases hl : ofLiteral l with
    | ok arg => exact ⟨arg, rfl⟩
    | error fault =>
      obtain ⟨e, he, hunknown, -⟩ := ofLiteral_eq_error_iff.mp hl
      exact absurd hunknown (h e he)

end Directive

/-! ## Lists of literals -/

section Traversal

variable {α β ε : Type} {f : α → Except ε β}

theorem mapM_eq_ok_iff {l : List α} {r : List β} :
    l.mapM f = .ok r ↔ List.Forall₂ (fun a b => f a = .ok b) l r := by
  induction l generalizing r with
  | nil => cases r <;> simp [pure, Except.pure]
  | cons a rest ih =>
    rw [List.mapM_cons]
    cases ha : f a with
    | error e =>
      refine iff_of_false nofun ?_
      intro h
      cases h with
      | cons hhead _ => exact absurd (ha.symm.trans hhead) nofun
    | ok b =>
      cases hrest : rest.mapM f with
      | error e =>
        refine iff_of_false nofun ?_
        intro h
        cases h with
        | cons _ htail => exact absurd (hrest.symm.trans (ih.mpr htail)) nofun
      | ok bs =>
        have hbs := ih.mp hrest
        constructor
        · intro h
          obtain rfl : b :: bs = r := Except.ok.inj h
          exact .cons ha hbs
        · intro h
          cases h with
          | cons hhead htail =>
            obtain rfl := Except.ok.inj (ha.symm.trans hhead)
            obtain rfl := Except.ok.inj (hrest.symm.trans (ih.mpr htail))
            rfl

/-- A traversal fails at the first member that fails. -/
theorem mapM_eq_error_iff {l : List α} {e : ε} :
    l.mapM f = .error e ↔
      ∃ before a after, l = before ++ a :: after ∧ (∀ b ∈ before, ∃ c, f b = .ok c) ∧
        f a = .error e := by
  induction l with
  | nil => simp [pure, Except.pure]
  | cons a rest ih =>
    rw [List.mapM_cons]
    constructor
    · intro h
      cases ha : f a with
      | error e' =>
        rw [ha] at h
        obtain rfl : e' = e := Except.error.inj h
        exact ⟨[], a, rest, rfl, nofun, ha⟩
      | ok b =>
        have hrest : rest.mapM f = .error e := by
          rw [ha] at h
          cases hrest : rest.mapM f with
          | error e' =>
            rw [hrest] at h
            exact h
          | ok bs =>
            rw [hrest] at h
            exact absurd h nofun
        obtain ⟨before, x, after, hsplit, hbefore, hx⟩ := ih.mp hrest
        refine ⟨a :: before, x, after, congrArg (a :: ·) hsplit, ?_, hx⟩
        intro y hy
        rcases List.mem_cons.mp hy with rfl | hy
        · exact ⟨b, ha⟩
        · exact hbefore y hy
    · intro h
      obtain ⟨before, x, after, hsplit, hbefore, hx⟩ := h
      cases before with
      | nil =>
        obtain ⟨rfl, -⟩ := List.cons.inj hsplit
        rw [hx]
        rfl
      | cons y before =>
        obtain ⟨rfl, htail⟩ := List.cons.inj hsplit
        obtain ⟨b, hb⟩ := hbefore a List.mem_cons_self
        have hrest : rest.mapM f = .error e :=
          ih.mpr ⟨before, x, after, htail, fun y hy => hbefore y (List.mem_cons_of_mem a hy), hx⟩
        rw [hb, hrest]
        rfl

end Traversal

namespace Directive

/-! ## Accepted arguments -/

theorem mem_and_signature_of_shape? {kinds : List ArgumentKind} {shape : Shape}
    (h : shape? kinds = some shape) : shape ∈ shapes ∧ shape.signature = kinds := by
  have hfound := List.find?_some h
  rw [beq_iff_eq] at hfound
  exact ⟨List.mem_of_find?_eq_some h, hfound⟩

/-- Each shape has a type or none, then a policy or none, then a truth value or
none. -/
theorem signature_of_mem_shapes :
    ∀ shape ∈ shapes, ∃ t p b : Bool, shape.signature =
      (if t then [ArgumentKind.type] else []) ++ (if p then [ArgumentKind.policy] else []) ++
        (if b then [ArgumentKind.bool] else []) := by
  decide

/-- No two shapes have one signature. -/
theorem shape_eq_of_signature_eq :
    ∀ a ∈ shapes, ∀ b ∈ shapes, a.signature = b.signature → a = b := by
  decide

/-- The arguments of a directive, each of which may be missing. -/
structure Arguments where
  type : Option TypeRef
  policy : Option AccessPolicy
  bool : Option Bool
  deriving DecidableEq, Repr, Inhabited

namespace Arguments

/-- The arguments that are there: the type, then the policy, then the truth
value. -/
def list (a : Arguments) : List Argument :=
  (a.type.map Argument.type).toList ++ (a.policy.map Argument.policy).toList ++
    (a.bool.map Argument.bool).toList

/-- The literals are the arguments that are there, in their order. -/
def WrittenAs (a : Arguments) (literals : List Literal) : Prop :=
  List.Forall₂ Spells literals a.list

theorem length_list_le (a : Arguments) : a.list.length ≤ maxArguments := by
  obtain ⟨type, policy, bool⟩ := a
  cases type <;> cases policy <;> cases bool <;> simp [list, maxArguments]

/-- Each combination of arguments is a shape, whose truth value asks for a
setter if there is no policy. -/
theorem shape?_list (a : Arguments) :
    ∃ shape, shape? (a.list.map (·.kind)) = some shape ∧
      shape.boolIsSetter = (a.bool.isSome && a.policy.isNone) := by
  obtain ⟨type, policy, bool⟩ := a
  cases type <;> cases policy <;> cases bool <;> exact ⟨_, rfl, rfl⟩

/-- One argument of a kind, or none. -/
theorem exists_option_of_map_kind {γ : Type} {wrap : γ → Argument} {k : ArgumentKind}
    (hwrap : ∀ arg : Argument, arg.kind = k → ∃ x, arg = wrap x) {args : List Argument}
    {present : Bool} (h : args.map (·.kind) = if present then [k] else []) :
    ∃ o : Option γ, args = (o.map wrap).toList := by
  cases present with
  | false =>
    refine ⟨none, ?_⟩
    exact List.map_eq_nil_iff.mp h
  | true =>
    obtain ⟨arg, rfl, hkind⟩ := List.map_eq_singleton_iff.mp h
    obtain ⟨x, rfl⟩ := hwrap arg hkind
    exact ⟨some x, rfl⟩

/-- Every shape is a combination of arguments. -/
theorem exists_eq_list_of_shape? {args : List Argument} {shape : Shape}
    (h : shape? (args.map (·.kind)) = some shape) : ∃ a : Arguments, args = a.list := by
  obtain ⟨hmem, hkinds⟩ := mem_and_signature_of_shape? h
  obtain ⟨t, p, b, hsignature⟩ := signature_of_mem_shapes shape hmem
  rw [hkinds] at hsignature
  obtain ⟨front, bools, rfl, hfront, hbools⟩ := List.map_eq_append_iff.mp hsignature
  obtain ⟨types, policies, rfl, htypes, hpolicies⟩ := List.map_eq_append_iff.mp hfront
  have hastype : ∀ arg : Argument, arg.kind = .type → ∃ t, arg = .type t
    | .type t, _ => ⟨t, rfl⟩
  have haspolicy : ∀ arg : Argument, arg.kind = .policy → ∃ p, arg = .policy p
    | .policy p, _ => ⟨p, rfl⟩
  have hasbool : ∀ arg : Argument, arg.kind = .bool → ∃ b, arg = .bool b
    | .bool b, _ => ⟨b, rfl⟩
  obtain ⟨type, rfl⟩ := exists_option_of_map_kind hastype htypes
  obtain ⟨policy, rfl⟩ := exists_option_of_map_kind haspolicy hpolicies
  obtain ⟨bool, rfl⟩ := exists_option_of_map_kind hasbool hbools
  exact ⟨⟨type, policy, bool⟩, rfl⟩

/-- Each argument that is there replaces a default, except for a truth value
that does not ask for a setter. -/
theorem foldl_apply_list (shape : Shape) (a : Arguments) (r : Request) :
    a.list.foldl (Request.apply shape) r =
      ⟨a.type.getD r.target, a.policy.getD r.policy,
        if shape.boolIsSetter then a.bool.getD r.includesSetter else r.includesSetter,
        r.shape⟩ := by
  have htype : ∀ r : Request, (a.type.map Argument.type).toList.foldl (Request.apply shape) r =
      { r with target := a.type.getD r.target } := by
    intro r
    cases a.type <;> rfl
  have hpolicy : ∀ r : Request,
      (a.policy.map Argument.policy).toList.foldl (Request.apply shape) r =
        { r with policy := a.policy.getD r.policy } := by
    intro r
    cases a.policy <;> rfl
  have hbool : ∀ r : Request, (a.bool.map Argument.bool).toList.foldl (Request.apply shape) r =
      { r with includesSetter :=
          if shape.boolIsSetter then a.bool.getD r.includesSetter else r.includesSetter } := by
    intro r
    cases a.bool with
    | none =>
      rw [Option.getD_none, ite_self]
      rfl
    | some b =>
      cases hsetter : shape.boolIsSetter <;> simp [Request.apply, hsetter]
  rw [list, List.foldl_append, List.foldl_append, htype, hpolicy, hbool]

end Arguments

theorem Arguments.WrittenAs.length_le {a : Arguments} {literals : List Literal}
    (h : a.WrittenAs literals) : literals.length ≤ maxArguments := by
  rw [List.Forall₂.length_eq h]
  exact a.length_list_le

theorem map_kindOf_of_spells {literals : List Literal} {args : List Argument}
    (h : List.Forall₂ Spells literals args) : args.map (·.kind) = literals.map kindOf := by
  induction h with
  | nil => rfl
  | cons hhead _ ih => rw [List.map_cons, List.map_cons, hhead.kind_eq, ih]

/-- Literals are recognized if each of them spells an argument. -/
theorem mapM_ofLiteral_eq_ok_iff {literals : List Literal} {args : List Argument} :
    literals.mapM Argument.ofLiteral = .ok args ↔ List.Forall₂ Spells literals args := by
  simp only [mapM_eq_ok_iff, Argument.ofLiteral_eq_ok_iff]

/-- Literals are not recognized if one of them is an unknown policy, and the
first of these is reported. -/
theorem mapM_ofLiteral_eq_error_iff {literals : List Literal} {fault : Fault} :
    literals.mapM Argument.ofLiteral = .error fault ↔
      ∃ before l after, literals = before ++ .enum l :: after ∧
        (∀ e, .enum e ∈ before → ¬ e.IsUnknown) ∧ l.IsUnknown ∧
        fault = .unknownPolicy l.enumName l.member.text := by
  rw [mapM_eq_error_iff]
  constructor
  · intro h
    obtain ⟨before, l, after, hsplit, hbefore, hl⟩ := h
    obtain ⟨e, rfl, hunknown, hfault⟩ := Argument.ofLiteral_eq_error_iff.mp hl
    refine ⟨before, e, after, hsplit, ?_, hunknown, hfault⟩
    intro e' he'
    exact Argument.exists_ofLiteral_eq_ok_iff.mp (hbefore _ he') e' rfl
  · intro h
    obtain ⟨before, l, after, hsplit, hbefore, hunknown, hfault⟩ := h
    refine ⟨before, .enum l, after, hsplit, ?_, ?_⟩
    · intro l' hl'
      refine Argument.exists_ofLiteral_eq_ok_iff.mpr fun e he => hbefore e ?_
      rw [← he]
      exact hl'
    · exact Argument.ofLiteral_eq_error_iff.mpr ⟨l, rfl, hunknown, hfault⟩

theorem not_isUnknown_of_spells {literals : List Literal} {args : List Argument}
    (h : List.Forall₂ Spells literals args) (l : EnumLiteral) (hl : .enum l ∈ literals) :
    ¬ l.IsUnknown := by
  induction h with
  | nil => exact absurd hl List.not_mem_nil
  | cons hhead _ ih =>
    rcases List.mem_cons.mp hl with heq | hl
    · intro hunknown
      rw [← heq] at hhead
      cases hhead with
      | policy _ hmeans => exact hunknown.2 _ hmeans
      | otherEnum henum => exact henum hunknown.1
    · exact ih hl

theorem exists_spells_of_not_isUnknown {literals : List Literal}
    (h : ∀ l, .enum l ∈ literals → ¬ l.IsUnknown) :
    ∃ args, List.Forall₂ Spells literals args := by
  cases hargs : literals.mapM Argument.ofLiteral with
  | ok args => exact ⟨args, mapM_ofLiteral_eq_ok_iff.mp hargs⟩
  | error fault =>
    obtain ⟨before, l, after, rfl, -, hunknown, -⟩ := mapM_ofLiteral_eq_error_iff.mp hargs
    exact absurd hunknown (h l (List.mem_append_right _ List.mem_cons_self))

/-! ## Following a directive -/

namespace Request

variable {literals : List Literal} {declared : TypeRef}

theorem ofLiterals_of_length (h : maxArguments < literals.length) :
    ofLiterals literals declared = .error (.tooManyArguments literals.length) := by
  rw [ofLiterals, if_pos h]

theorem ofLiterals_of_error {fault : Fault} (hlength : literals.length ≤ maxArguments)
    (h : literals.mapM Argument.ofLiteral = .error fault) :
    ofLiterals literals declared = .error fault := by
  rw [ofLiterals, if_neg (Nat.not_lt.mpr hlength), h]
  rfl

/-- Arguments that are recognized have to be a combination that is accepted. -/
theorem ofLiterals_of_not_writtenAs {args : List Argument}
    (hlength : literals.length ≤ maxArguments) (h : List.Forall₂ Spells literals args)
    (hnone : ¬ ∃ a : Arguments, a.WrittenAs literals) :
    ofLiterals literals declared = .error (.unrecognizedShape (literals.map kindOf)) := by
  have hshape : shape? (args.map (·.kind)) = none := by
    rw [Option.eq_none_iff_forall_ne_some]
    intro shape hshape
    obtain ⟨a, rfl⟩ := Arguments.exists_eq_list_of_shape? hshape
    exact hnone ⟨a, h⟩
  rw [ofLiterals, if_neg (Nat.not_lt.mpr hlength), mapM_ofLiteral_eq_ok_iff.mpr h]
  simp only [bind, Except.bind, hshape]
  rw [map_kindOf_of_spells h]

/-- An accepted combination says what it holds, with defaults for the rest. -/
theorem ofLiterals_of_writtenAs (declared : TypeRef) {a : Arguments}
    (h : a.WrittenAs literals) :
    ∃ shape ∈ shapes, shape.signature = literals.map kindOf ∧
      ofLiterals literals declared =
        .ok ⟨a.type.getD declared, a.policy.getD .publicGet,
          a.policy.isNone && a.bool.getD false, shape.name⟩ := by
  obtain ⟨shape, hshape, hsetter⟩ := a.shape?_list
  obtain ⟨hmem, hsignature⟩ := mem_and_signature_of_shape? hshape
  refine ⟨shape, hmem, hsignature.trans (map_kindOf_of_spells h), ?_⟩
  have hincludes : (if shape.boolIsSetter then a.bool.getD false else false) =
      (a.policy.isNone && a.bool.getD false) := by
    rw [hsetter]
    cases a.bool <;> cases a.policy <;> simp
  rw [ofLiterals, if_neg (Nat.not_lt.mpr h.length_le), mapM_ofLiteral_eq_ok_iff.mpr h]
  simp only [bind, Except.bind, hshape, Arguments.foldl_apply_list, hincludes]

/-- What there is to say about the arguments of a directive on a field of the
declared type.  Each verdict rules out the ones before it. -/
inductive Verdict (literals : List Literal) (declared : TypeRef) : Except Fault Request → Prop where
  /-- There are too many of them, whatever they are. -/
  | tooMany (hlength : 3 < literals.length) :
      Verdict literals declared (.error (.tooManyArguments literals.length))
  /-- One is written as a policy and means none; the first of these is named. -/
  | unknown {before after : List Literal} {l : EnumLiteral} (hlength : literals.length ≤ 3)
      (hfirst : literals = before ++ .enum l :: after)
      (hbefore : ∀ e, .enum e ∈ before → ¬ e.IsUnknown) (hunknown : l.IsUnknown) :
      Verdict literals declared (.error (.unknownPolicy l.enumName l.member.text))
  /-- They are not an optional type, policy and truth value, in this order. -/
  | unrecognized (hlength : literals.length ≤ 3) (hknown : ∀ l, .enum l ∈ literals → ¬ l.IsUnknown)
      (hshape : ¬ ∃ a : Arguments, a.WrittenAs literals) :
      Verdict literals declared (.error (.unrecognizedShape (literals.map kindOf)))
  /-- They are, and what is missing has its default.  The truth value asks for a
  setter unless there is a policy. -/
  | accepted {a : Arguments} {shape : Shape} (hwritten : a.WrittenAs literals)
      (hshape : shape ∈ shapes) (hsignature : shape.signature = literals.map kindOf) :
      Verdict literals declared
        (.ok ⟨a.type.getD declared, a.policy.getD .publicGet,
          a.policy.isNone && a.bool.getD false, shape.name⟩)

theorem verdict_ofLiterals (literals : List Literal) (declared : TypeRef) :
    Verdict literals declared (ofLiterals literals declared) := by
  by_cases hlong : maxArguments < literals.length
  · rw [ofLiterals_of_length hlong]
    exact .tooMany hlong
  · have hlength : literals.length ≤ maxArguments := Nat.not_lt.mp hlong
    cases hargs : literals.mapM Argument.ofLiteral with
    | error fault =>
      rw [ofLiterals_of_error hlength hargs]
      obtain ⟨before, l, after, hfirst, hbefore, hunknown, rfl⟩ :=
        mapM_ofLiteral_eq_error_iff.mp hargs
      exact .unknown hlength hfirst hbefore hunknown
    | ok args =>
      have hspells := mapM_ofLiteral_eq_ok_iff.mp hargs
      by_cases hwritten : ∃ a : Arguments, a.WrittenAs literals
      · obtain ⟨a, ha⟩ := hwritten
        obtain ⟨shape, hshape, hsignature, hresult⟩ := ofLiterals_of_writtenAs declared ha
        rw [hresult]
        exact .accepted ha hshape hsignature
      · rw [ofLiterals_of_not_writtenAs hlength hspells hwritten]
        exact .unrecognized hlength (not_isUnknown_of_spells hspells) hwritten

theorem ofLiterals_of_verdict {result : Except Fault Request}
    (h : Verdict literals declared result) : ofLiterals literals declared = result := by
  cases h with
  | tooMany hlength => exact ofLiterals_of_length hlength
  | unknown hlength hfirst hbefore hunknown =>
    refine ofLiterals_of_error hlength (mapM_ofLiteral_eq_error_iff.mpr ?_)
    exact ⟨_, _, _, hfirst, hbefore, hunknown, rfl⟩
  | unrecognized hlength hknown hshape =>
    obtain ⟨args, hspells⟩ := exists_spells_of_not_isUnknown hknown
    exact ofLiterals_of_not_writtenAs hlength hspells hshape
  | @accepted a shape hwritten hshape hsignature =>
    obtain ⟨other, hother, hsame, hresult⟩ := ofLiterals_of_writtenAs declared hwritten
    have heq : shape = other :=
      shape_eq_of_signature_eq shape hshape other hother (hsignature.trans hsame.symm)
    rw [hresult, heq]

/-- A directive accepts exactly an optional type, an optional policy and an
optional truth value, in this order, and reads them faithfully; of anything else
it tells the first thing that is wrong.  A setter is only asked for where there
is no policy, so it comes to the public policy with a getter and a setter. -/
theorem ofLiterals_exact (literals : List Literal) (declared : TypeRef) :
    (∀ result, ofLiterals literals declared = result ↔ Verdict literals declared result) ∧
    ((∃ r, ofLiterals literals declared = .ok r) ↔ ∃ a : Arguments, a.WrittenAs literals) ∧
    ∀ r, ofLiterals literals declared = .ok r →
      r.effectivePolicy = if r.includesSetter then .publicGetSet else r.policy := by
  have hverdict : ∀ result,
      ofLiterals literals declared = result ↔ Verdict literals declared result := by
    intro result
    constructor
    · intro h
      rw [← h]
      exact verdict_ofLiterals literals declared
    · exact ofLiterals_of_verdict
  refine ⟨hverdict, ?_, ?_⟩
  · constructor
    · intro h
      obtain ⟨r, hr⟩ := h
      cases (hverdict _).mp hr with
      | accepted hwritten _ _ => exact ⟨_, hwritten⟩
    · intro h
      obtain ⟨a, ha⟩ := h
      obtain ⟨shape, -, -, hresult⟩ := ofLiterals_of_writtenAs declared ha
      exact ⟨_, hresult⟩
  · intro r hr
    cases (hverdict _).mp hr with
    | @accepted a shape hwritten hshape hsignature =>
      cases hpolicy : a.policy with
      | none => cases a.bool.getD false <;> simp [effectivePolicy, AccessPolicy.withSetter]
      | some p => simp [effectivePolicy]

end Request

end Directive

end AccessorGen
