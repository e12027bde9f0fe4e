import AccessorGen.Document.Snapshot
import AccessorGen.Proofs.Spelling
import Mathlib.Data.Option.Basic

set_option autoImplicit false

/-!
# Round trip of documents

A snapshot that is written can always be read again.  What is read is the
snapshot with every type reference and every namespace in normal spelling,
because reading goes through the smart constructors at every depth.  So the
snapshot comes back as it was exactly if it was in normal form before.
-/

namespace AccessorGen

/-! ## Reading what was written -/

namespace Json

variable {α β : Type} {encode : α → Json} {decode : Json → Option β} {f : α → β}

theorem list?_ofList (h : ∀ a, decode (encode a) = some (f a)) (values : List α) :
    list? decode (ofList encode values) = some (values.map f) := by
  have hmapM : (values.map encode).mapM decode = some (values.map f) := by
    induction values with
    | nil => rfl
    | cons a rest ih => simp [List.mapM_cons, h, ih]
  simpa [list?, ofList, items?] using hmapM

@[simp] theorem orDefault_some (default : β) (j : Json) :
    orDefault decode default (some j) = decode j := rfl

@[simp] theorem text?_str (s : String) : text? (.str s) = some s := rfl

/-- The value of a member that is written only if it is not empty. -/
def unlessEmpty (encode : α → Json) : List α → Option Json
  | [] => none
  | values => some (.ofList encode values)

/-- An empty list is left out, and its absence is read as an empty list. -/
theorem orDefault_unlessEmpty (h : ∀ a, decode (encode a) = some (f a)) (values : List α) :
    orDefault (list? decode) [] (unlessEmpty encode values) = some (values.map f) := by
  cases values with
  | nil => rfl
  | cons a rest => exact list?_ofList h (a :: rest)

/-- What is not there is left out, and its absence is read as nothing. -/
theorem orDefault_map_encode (h : ∀ a, decode (encode a) = some (f a))
    (hnull : ∀ a, encode a ≠ .null) (value : Option α) :
    orDefault (option? decode) none (value.map encode) = some (value.map f) := by
  cases value with
  | none => rfl
  | some a =>
    have hoption : option? decode (encode a) = (decode (encode a)).map some := by
      unfold option?
      split
      · rename_i hn
        exact absurd hn (hnull a)
      · rfl
    simp [hoption, h]

theorem filter_eq_nil_of_member? {members : List (String × Json)} {name : String}
    (h : member? members name = some none) : members.filter (·.1 == name) = [] := by
  unfold member? at h
  split at h
  · assumption
  · simp at h
  · simp at h

theorem member?_append_left {first second : List (String × Json)} {name : String}
    (h : member? second name = some none) :
    member? (first ++ second) name = member? first name := by
  simp only [member?, List.filter_append, filter_eq_nil_of_member? h, List.append_nil]

theorem member?_append_right {first second : List (String × Json)} {name : String}
    (h : member? first name = some none) :
    member? (first ++ second) name = member? second name := by
  simp only [member?, List.filter_append, filter_eq_nil_of_member? h, List.nil_append]

@[simp] theorem member?_memberUnlessEmpty (name other : String) (values : List α) :
    member? (memberUnlessEmpty name encode values) other =
      some (if name = other then unlessEmpty encode values else none) := by
  cases values with
  | nil => simp [memberUnlessEmpty, member?, unlessEmpty]
  | cons a rest => by_cases h : name = other <;> simp [memberUnlessEmpty, member?, unlessEmpty, h]

@[simp] theorem member?_memberIfSome (name other : String) (value : Option α) :
    member? (memberIfSome name encode value) other =
      some (if name = other then value.map encode else none) := by
  cases value with
  | none => simp [memberIfSome, member?]
  | some a => by_cases h : name = other <;> simp [memberIfSome, member?, h]

end Json

/-! ## Type references -/

namespace TypeRef

/-- The reference with every part of it in normal spelling.  That is its
canonical form where no type is declared. -/
def normalized (t : TypeRef) : TypeRef := Universe.canonical ⟨[]⟩ t

theorem normalized_named (path : String) (args : List TypeRef) :
    normalized (.named path args) = generic path (args.map normalized) := by
  have hqualify : Universe.qualify ⟨[]⟩ path args.length = path := by
    simp [Universe.qualify, Universe.resolve?, Universe.qualified?, Universe.simple?]
  rw [normalized, Universe.canonical, Universe.canonicals_eq_map, hqualify]
  rfl

theorem normalized_array (element : TypeRef) (rank : UInt8) :
    normalized (.array element rank) = arrayOf element.normalized rank := rfl

theorem normalized_nullable (inner : TypeRef) :
    normalized (.nullable inner) = optional inner.normalized := rfl

theorem rank?_ofNat (rank : UInt8) : rank? (.int rank.toNat) = some rank := by
  have hlt := rank.toNat_lt
  simp only [rank?, Json.natBelow?, Int.natCast_nonneg, true_and]
  rw [if_pos (by omega)]
  simp

theorem ofUsable?_named {content : Json} {path : String} {args : List Json}
    (h : content.record? ["path", "args"] = some [some (.str path), some (.arr args)]) :
    ofUsable? (.obj [("named", content)]) = (ofUsables? args).map (generic path) := by
  rw [ofUsable?]
  simp only [String.reduceEq, if_false, if_true]
  split <;> simp_all

theorem ofUsable?_array {content element : Json} {rank : Option Json}
    (h : content.record? ["element", "rank"] = some [some element, rank]) :
    ofUsable? (.obj [("array", content)]) =
      (ofUsable? element).bind fun element =>
        (Json.orDefault rank? 1 rank).map fun rank => arrayOf element rank := by
  rw [ofUsable?]
  simp only [String.reduceEq, if_false, if_true]
  split
  · rename_i element' rank' hfound
    obtain ⟨rfl, rfl⟩ : element = element' ∧ rank = rank' := by simpa [h] using hfound
    cases ofUsable? element <;> cases Json.orDefault rank? 1 rank <;> rfl
  · simp_all

theorem ofUsables?_map {ts : List TypeRef}
    (h : ∀ t ∈ ts, ofUsable? t.toJson = some t.normalized) :
    ofUsables? (ts.map toJson) = some (ts.map normalized) := by
  induction ts with
  | nil => simp [ofUsables?]
  | cons t ts ih =>
    have hhead : ofUsable? t.toJson = some t.normalized := h t List.mem_cons_self
    have htail : ofUsables? (ts.map toJson) = some (ts.map normalized) :=
      ih fun u hu => h u (List.mem_cons_of_mem t hu)
    simp [ofUsables?, hhead, htail]

theorem ofUsable?_toJson (t : TypeRef) : ofUsable? t.toJson = some t.normalized := by
  induction t with
  | named path args ih =>
    rw [normalized_named]
    cases args with
    | nil => rw [toJson, ofUsable?, ofPath, List.map_nil]
    | cons arg args =>
      have hrecord : (Json.obj [("path", .str path),
          ("args", .arr ((arg :: args).map toJson))]).record? ["path", "args"] =
            some [some (.str path), some (.arr ((arg :: args).map toJson))] := by
        simp [Json.record?, Json.member?]
      rw [toJson, toJsons_eq_map, ← List.map_cons, ofUsable?_named hrecord, ofUsables?_map ih,
        Option.map_some]
  | array element rank ih =>
    have hrecord : (Json.obj [("element", element.toJson),
        ("rank", .int rank.toNat)]).record? ["element", "rank"] =
          some [some element.toJson, some (.int rank.toNat)] := by
      simp [Json.record?, Json.member?]
    rw [toJson, ofUsable?_array hrecord, ih, Option.bind_some, Json.orDefault_some, rank?_ofNat,
      Option.map_some, normalized_array]
  | nullable inner ih =>
    rw [toJson, ofUsable?]
    simp [ih, normalized_nullable]

theorem areUsable_map {ts : List TypeRef} (h : ∀ t ∈ ts, t.toJson.isUsable = true) :
    Json.areUsable (ts.map toJson) = true := by
  induction ts with
  | nil => rfl
  | cons t ts ih =>
    rw [List.map_cons, Json.areUsable, h t List.mem_cons_self, Bool.true_and]
    exact ih fun u hu => h u (List.mem_cons_of_mem t hu)

theorem isUsable_toJson (t : TypeRef) : t.toJson.isUsable = true := by
  induction t with
  | named path args ih =>
    cases args with
    | nil => rfl
    | cons arg args =>
      have hargs := areUsable_map ih
      rw [List.map_cons] at hargs
      simp [toJson, toJsons_eq_map, Json.isUsable, Json.membersUsable, hargs]
  | array element rank ih => simp [toJson, Json.isUsable, Json.membersUsable, ih]
  | nullable inner ih => simp [toJson, Json.isUsable, Json.membersUsable, ih]

@[simp] theorem ofJson?_toJson (t : TypeRef) : ofJson? t.toJson = some t.normalized := by
  rw [ofJson?, if_pos t.isUsable_toJson, ofUsable?_toJson]

theorem toJson_ne_null (t : TypeRef) : t.toJson ≠ .null := by
  intro h
  cases t with
  | named path args => cases args <;> simp [toJson] at h
  | array element rank => simp [toJson] at h
  | nullable inner => simp [toJson] at h

/-- The reference is in normal form: every path is in normal spelling, every
array has a rank of at least one, and no nullable type is made nullable
again. -/
inductive IsNormal : TypeRef → Prop where
  | named {path : String} {args : List TypeRef} (hpath : normalPath path = path)
      (hargs : ∀ a ∈ args, IsNormal a) : IsNormal (.named path args)
  | array {element : TypeRef} {rank : UInt8} (helement : IsNormal element) (hrank : 1 ≤ rank) :
      IsNormal (.array element rank)
  | nullable {inner : TypeRef} (hinner : IsNormal inner) (honce : ∀ t, inner ≠ .nullable t) :
      IsNormal (.nullable inner)

theorem isNormal_named_iff {path : String} {args : List TypeRef} :
    IsNormal (.named path args) ↔ normalPath path = path ∧ ∀ a ∈ args, IsNormal a :=
  ⟨fun | .named hpath hargs => ⟨hpath, hargs⟩, fun h => .named h.1 h.2⟩

theorem isNormal_array_iff {element : TypeRef} {rank : UInt8} :
    IsNormal (.array element rank) ↔ IsNormal element ∧ 1 ≤ rank :=
  ⟨fun | .array helement hrank => ⟨helement, hrank⟩, fun h => .array h.1 h.2⟩

theorem isNormal_nullable_iff {inner : TypeRef} :
    IsNormal (.nullable inner) ↔ IsNormal inner ∧ ∀ t, inner ≠ .nullable t :=
  ⟨fun | .nullable hinner honce => ⟨hinner, honce⟩, fun h => .nullable h.1 h.2⟩

end TypeRef

theorem map_eq_self_iff {α : Type} {f : α → α} {l : List α} : l.map f = l ↔ ∀ a ∈ l, f a = a := by
  have hself : l = l.map id := (List.map_id l).symm
  calc l.map f = l ↔ l.map f = l.map id := by rw [← hself]
    _ ↔ ∀ a ∈ l, f a = a := List.map_inj_left

namespace TypeRef

theorem arrayOf_eq_array_iff {element element' : TypeRef} {rank : UInt8} :
    arrayOf element rank = .array element' rank ↔ element = element' ∧ 1 ≤ rank := by
  have hpos : 1 ≤ rank ↔ rank ≠ 0 := by
    rw [UInt8.le_iff_toNat_le, ne_eq, ← UInt8.toNat_inj]
    exact Nat.one_le_iff_ne_zero
  rw [arrayOf, array.injEq, hpos]
  refine and_congr_right fun _ => ?_
  by_cases hrank : rank = 0
  · simp [hrank]
  · simp [hrank]

/-- What is not nullable does not become so, and keeps its place below a mark. -/
theorem optional_normalized_eq_iff {inner : TypeRef} (honce : ∀ t, inner ≠ .nullable t) :
    optional inner.normalized = .nullable inner ↔ inner.normalized = inner := by
  cases inner with
  | named path args => simp [normalized_named, generic, optional]
  | array element rank => simp [normalized_array, arrayOf, optional]
  | nullable t => exact absurd rfl (honce t)

/-- Normal spelling leaves a reference alone exactly if it is in normal form. -/
theorem normalized_eq_self_iff (t : TypeRef) : t.normalized = t ↔ t.IsNormal := by
  induction t with
  | named path args ih =>
    rw [normalized_named, generic, named.injEq, map_eq_self_iff, isNormal_named_iff]
    exact and_congr_right fun _ => forall₂_congr ih
  | array element rank ih =>
    rw [normalized_array, arrayOf_eq_array_iff, isNormal_array_iff, ih]
  | nullable inner ih =>
    rw [isNormal_nullable_iff, ← ih, normalized_nullable]
    constructor
    · intro h
      have honce : ∀ t, inner ≠ .nullable t := by
        rintro t rfl
        exact Universe.canonical_ne_nullable_nullable ⟨[]⟩ (.nullable (.nullable t)) t h
      exact ⟨(optional_normalized_eq_iff honce).mp h, honce⟩
    · rintro ⟨hinner, honce⟩
      exact (optional_normalized_eq_iff honce).mpr hinner

instance (t : TypeRef) : Decidable t.IsNormal := decidable_of_iff _ t.normalized_eq_self_iff

end TypeRef

/-! ## Headers -/

namespace TypeHeader

/-- The header with its namespace in normal spelling. -/
def normalized (h : TypeHeader) : TypeHeader := ofParts h.scope h.name h.kind h.params

/-- The namespace of the header, if there is one, is in normal spelling. -/
def IsNormal (h : TypeHeader) : Prop :=
  ∀ scope, h.scope = some scope → normalScope? scope = some scope

theorem normalized_eq_self_iff (h : TypeHeader) : h.normalized = h ↔ h.IsNormal := by
  obtain ⟨scope, name, kind, params⟩ := h
  cases scope with
  | none => simp [normalized, ofParts, IsNormal]
  | some scope => simp [normalized, ofParts, IsNormal]

theorem member?_members (h : TypeHeader) :
    Json.member? h.members "namespace" = some (h.scope.map .str) ∧
      Json.member? h.members "name" = some (some (.str h.name)) ∧
      Json.member? h.members "kind" = some (some (.str h.kind.tag)) ∧
      Json.member? h.members "type_params" = some (Json.unlessEmpty .str h.params) := by
  obtain ⟨scope, name, kind, params⟩ := h
  cases scope <;> cases params <;>
    simp [members, Json.member?, Json.memberIfSome, Json.memberUnlessEmpty, Json.unlessEmpty]

theorem member?_members_of_not_mem (h : TypeHeader) {name : String} (hname : name ∉ memberNames) :
    Json.member? h.members name = some none := by
  simp only [memberNames, List.mem_cons, List.not_mem_nil, or_false, not_or] at hname
  obtain ⟨hscope, hown, hkind, hparams⟩ := hname
  obtain ⟨scope, name, kind, params⟩ := h
  cases scope <;> cases params <;>
    simp [members, Json.member?, Json.memberIfSome, Json.memberUnlessEmpty, Ne.symm hscope,
      Ne.symm hown, Ne.symm hkind, Ne.symm hparams]

theorem membersUsable_members (h : TypeHeader) : Json.membersUsable h.members = true := by
  have hparams : ∀ params : List String, Json.areUsable (params.map .str) = true := by
    intro params
    induction params with
    | nil => rfl
    | cons param params ih => simpa [Json.areUsable, Json.isUsable] using ih
  obtain ⟨scope, name, kind, params⟩ := h
  cases scope <;> cases params <;>
    simp [members, Json.memberIfSome, Json.memberUnlessEmpty, Json.ofList, Json.membersUsable,
      Json.isUsable, Json.areUsable, hparams]

/-- A header is found among the members that were written for it, also if
members of other names follow. -/
theorem record?_members (h : TypeHeader) {others : List (String × Json)}
    (hothers : ∀ name ∈ memberNames, Json.member? others name = some none) :
    (Json.obj (h.members ++ others)).record? memberNames =
      some [h.scope.map .str, some (.str h.name), some (.str h.kind.tag),
        Json.unlessEmpty .str h.params] := by
  simp only [memberNames, List.mem_cons, List.not_mem_nil, or_false, forall_eq_or_imp,
    forall_eq] at hothers
  obtain ⟨hscope, hname, hkind, hparams⟩ := hothers
  simp [Json.record?, memberNames, Json.member?_append_left, hscope, hname, hkind, hparams,
    h.member?_members]

theorem ofMembers?_members (h : TypeHeader) {readKind : Json → Option TypeKind}
    (hkind : readKind (.str h.kind.tag) = some h.kind) :
    ofMembers? readKind [h.scope.map .str, some (.str h.name), some (.str h.kind.tag),
      Json.unlessEmpty .str h.params] = some h.normalized := by
  have hscope : Json.orDefault (Json.option? Json.text?) none (h.scope.map .str) =
      some (h.scope.map id) :=
    Json.orDefault_map_encode Json.text?_str (fun _ => nofun) h.scope
  have hparams : Json.orDefault (Json.list? Json.text?) [] (Json.unlessEmpty .str h.params) =
      some (h.params.map id) :=
    Json.orDefault_unlessEmpty Json.text?_str h.params
  simp [ofMembers?, hscope, hparams, hkind, normalized]

@[simp] theorem ofJson?_toJson (h : TypeHeader) : ofJson? h.toJson = some h.normalized := by
  have hnone : ∀ name ∈ memberNames, Json.member? [] name = some none := fun _ _ => rfl
  have hrecord := h.record?_members hnone
  rw [List.append_nil] at hrecord
  rw [ofJson?, toJson, hrecord, Option.bind_some]
  exact h.ofMembers?_members (by simp [kind?, Json.word?])

end TypeHeader

/-! ## Operators, attributes and fields -/

namespace ConversionOperator

/-- Both types of the operator are in normal spelling. -/
def IsNormal (op : ConversionOperator) : Prop := op.parameter.IsNormal ∧ op.returns.IsNormal

@[simp] theorem ofJson?_toJson (op : ConversionOperator) :
    ofJson? op.toJson = some (op.mapTypes TypeRef.normalized) := by
  simp [ofJson?, toJson, Json.record?, Json.member?, Json.word?, mapTypes]

theorem normalized_eq_self_iff (op : ConversionOperator) :
    op.mapTypes TypeRef.normalized = op ↔ op.IsNormal := by
  obtain ⟨kind, parameter, returns⟩ := op
  simp [mapTypes, IsNormal, TypeRef.normalized_eq_self_iff]

end ConversionOperator

namespace Location

theorem ofJson?_toJson (l : Location) : ofJson? l.toJson = some l := by
  have hnumber : ∀ n : UInt32, number? (.int n.toNat) = some n := by
    intro n
    have hlt := n.toNat_lt
    simp only [number?, Json.natBelow?, Int.natCast_nonneg, true_and]
    rw [if_pos (by omega)]
    simp
  simp [ofJson?, toJson, Json.record?, Json.member?, hnumber]

end Location

theorem EnumMember.ofJson?_toJson (m : EnumMember) : ofJson? m.toJson = some m := by
  cases m with
  | byName name => rfl
  | byValue value =>
    have hrange : Int64.minValue.toInt ≤ value.toInt ∧ value.toInt ≤ Int64.maxValue.toInt :=
      ⟨value.minValue_le_toInt, value.toInt_le⟩
    rw [toJson, ofJson?, if_pos hrange, Int64.ofInt_toInt]

theorem EnumLiteral.ofJson?_toJson (l : EnumLiteral) : ofJson? l.toJson = some l := by
  simp [ofJson?, toJson, Json.record?, Json.member?, EnumMember.ofJson?_toJson]

namespace Literal

/-- The literal is a type in normal spelling or no type at all. -/
def IsNormal (l : Literal) : Prop := ∀ t, l = .type t → t.IsNormal

@[simp] theorem ofJson?_toJson (l : Literal) :
    ofJson? l.toJson = some (l.mapType TypeRef.normalized) := by
  cases l with
  | type t => simp [ofJson?, toJson, Json.tagged?, mapType]
  | enum l => simp [ofJson?, toJson, Json.tagged?, mapType, EnumLiteral.ofJson?_toJson]
  | bool b => simp [ofJson?, toJson, Json.tagged?, mapType, Json.bool?]

theorem normalized_eq_self_iff (l : Literal) : l.mapType TypeRef.normalized = l ↔ l.IsNormal := by
  cases l with
  | type t => simp [mapType, IsNormal, TypeRef.normalized_eq_self_iff]
  | enum l => simp [mapType, IsNormal]
  | bool b => simp [mapType, IsNormal]

end Literal

namespace Attribute

/-- Every type among the arguments is in normal spelling. -/
def IsNormal (a : Attribute) : Prop := ∀ l ∈ a.args, l.IsNormal

@[simp] theorem ofJson?_toJson (a : Attribute) :
    ofJson? a.toJson = some (a.mapTypes TypeRef.normalized) := by
  have hargs := Json.orDefault_unlessEmpty Literal.ofJson?_toJson a.args
  have hrecord : a.toJson.record? ["name", "args"] =
      some [some (.str a.name), Json.unlessEmpty Literal.toJson a.args] := by
    obtain ⟨name, args⟩ := a
    cases args <;>
      simp [toJson, Json.record?, Json.member?, Json.memberUnlessEmpty, Json.unlessEmpty]
  simp [ofJson?, hrecord, hargs, mapTypes]

theorem normalized_eq_self_iff (a : Attribute) :
    a.mapTypes TypeRef.normalized = a ↔ a.IsNormal := by
  obtain ⟨name, args⟩ := a
  simp [mapTypes, IsNormal, map_eq_self_iff, Literal.normalized_eq_self_iff]

end Attribute

namespace Field

/-- The field with its type, its container and its attributes in normal
spelling. -/
def normalized (f : Field) : Field :=
  { f.mapTypes TypeRef.normalized with container := f.container.normalized }

/-- Everything about the field is in normal spelling. -/
structure IsNormal (f : Field) : Prop where
  type : f.type.IsNormal
  container : f.container.IsNormal
  attributes : ∀ a ∈ f.attributes, a.IsNormal

@[simp] theorem ofJson?_toJson (f : Field) : ofJson? f.toJson = some f.normalized := by
  have hattributes := Json.orDefault_unlessEmpty Attribute.ofJson?_toJson f.attributes
  have hlocation : Json.orDefault (Json.option? Location.ofJson?) none
      (f.location.map Location.toJson) = some (f.location.map id) :=
    Json.orDefault_map_encode Location.ofJson?_toJson (fun _ => nofun) f.location
  have hrecord : f.toJson.record? ["ident", "type", "containing", "attributes", "location"] =
      some [some (.str f.ident), some f.type.toJson, some f.container.toJson,
        Json.unlessEmpty Attribute.toJson f.attributes, f.location.map Location.toJson] := by
    obtain ⟨ident, type, container, attributes, location⟩ := f
    cases attributes <;> cases location <;>
      simp [toJson, Json.record?, Json.member?, Json.memberUnlessEmpty, Json.memberIfSome,
        Json.unlessEmpty]
  simp [ofJson?, hrecord, hattributes, hlocation, normalized, mapTypes]

theorem normalized_eq_self_iff (f : Field) : f.normalized = f ↔ f.IsNormal := by
  obtain ⟨ident, type, container, attributes, location⟩ := f
  simp only [normalized, mapTypes, mk.injEq, true_and, and_true, map_eq_self_iff,
    TypeRef.normalized_eq_self_iff, TypeHeader.normalized_eq_self_iff,
    Attribute.normalized_eq_self_iff]
  constructor
  · rintro ⟨htype, hcontainer, hattributes⟩
    exact ⟨htype, hcontainer, hattributes⟩
  · intro h
    exact ⟨h.type, h.container, h.attributes⟩

end Field

/-! ## Declarations and snapshots -/

namespace TypeDecl

/-- The declaration with everything about it in normal spelling. -/
def normalized (d : TypeDecl) : TypeDecl :=
  ⟨d.header.normalized, d.bases.map TypeRef.normalized, d.underlying.map TypeRef.normalized,
    d.operators.map (·.mapTypes TypeRef.normalized)⟩

/-- Everything about the declaration is in normal spelling. -/
structure IsNormal (d : TypeDecl) : Prop where
  header : d.header.IsNormal
  bases : ∀ t ∈ d.bases, t.IsNormal
  underlying : ∀ t, d.underlying = some t → t.IsNormal
  operators : ∀ op ∈ d.operators, op.IsNormal

/-- The members of a declaration beside those of its header. -/
def ownMembers (d : TypeDecl) : List (String × Json) :=
  Json.memberUnlessEmpty "base_types" TypeRef.toJson d.bases ++
    Json.memberIfSome "underlying" TypeRef.toJson d.underlying ++
    Json.memberUnlessEmpty "operators" ConversionOperator.toJson d.operators

theorem toJson_eq (d : TypeDecl) : d.toJson = .obj (d.header.members ++ d.ownMembers) := by
  simp only [toJson, ownMembers, List.append_assoc]

theorem member?_ownMembers (d : TypeDecl) :
    Json.member? d.ownMembers "base_types" = some (Json.unlessEmpty TypeRef.toJson d.bases) ∧
      Json.member? d.ownMembers "underlying" = some (d.underlying.map TypeRef.toJson) ∧
      Json.member? d.ownMembers "operators" =
        some (Json.unlessEmpty ConversionOperator.toJson d.operators) := by
  refine ⟨?_, ?_, ?_⟩
  · simp [ownMembers, Json.member?_append_left]
  · simp [ownMembers, Json.member?_append_left, Json.member?_append_right]
  · simp [ownMembers, Json.member?_append_right]

theorem record?_ownMembers (d : TypeDecl) :
    (Json.obj (d.header.members ++ d.ownMembers)).record? memberNames =
      some [Json.unlessEmpty TypeRef.toJson d.bases, d.underlying.map TypeRef.toJson,
        Json.unlessEmpty ConversionOperator.toJson d.operators] := by
  have hskip : ∀ name, name ∉ TypeHeader.memberNames →
      Json.member? (d.header.members ++ d.ownMembers) name = Json.member? d.ownMembers name :=
    fun name hname => Json.member?_append_right (d.header.member?_members_of_not_mem hname)
  have hbases := hskip "base_types" (by decide)
  have hunderlying := hskip "underlying" (by decide)
  have hoperators := hskip "operators" (by decide)
  simp [Json.record?, memberNames, hbases, hunderlying, hoperators, d.member?_ownMembers]

theorem member?_ownMembers_of_not_mem (d : TypeDecl) {name : String} (hname : name ∉ memberNames) :
    Json.member? d.ownMembers name = some none := by
  simp only [memberNames, List.mem_cons, List.not_mem_nil, or_false, not_or] at hname
  obtain ⟨hbases, hunderlying, hoperators⟩ := hname
  simp [ownMembers, Json.member?_append_left, Ne.symm hbases, Ne.symm hunderlying,
    Ne.symm hoperators]

/-- The header is looked for among members that are all usable. -/
theorem membersUsable_others (d : TypeDecl) :
    Json.membersUsable ((d.header.members ++ d.ownMembers).filter
      fun m => !memberNames.contains m.1) = true := by
  have hheader : d.header.members.filter (fun m => !memberNames.contains m.1) =
      d.header.members := by
    obtain ⟨⟨scope, name, kind, params⟩, -, -, -⟩ := d
    cases scope <;> cases params <;>
      simp [TypeHeader.members, Json.memberIfSome, Json.memberUnlessEmpty, memberNames]
  have hown : d.ownMembers.filter (fun m => !memberNames.contains m.1) = [] := by
    obtain ⟨-, bases, underlying, operators⟩ := d
    cases bases <;> cases underlying <;> cases operators <;>
      simp [ownMembers, Json.memberIfSome, Json.memberUnlessEmpty, memberNames]
  rw [List.filter_append, hheader, hown, List.append_nil]
  exact d.header.membersUsable_members

@[simp] theorem ofJson?_toJson (d : TypeDecl) : ofJson? d.toJson = some d.normalized := by
  have hdisjoint : ∀ name ∈ TypeHeader.memberNames, name ∉ memberNames := by decide
  have hheader := d.header.record?_members fun name hname =>
    d.member?_ownMembers_of_not_mem (hdisjoint name hname)
  have hkind : TypeHeader.declaredKind? (.str d.header.kind.tag) = some d.header.kind := by
    simp [TypeHeader.declaredKind?, TypeHeader.kind?, Json.word?]
  have hbases := Json.orDefault_unlessEmpty TypeRef.ofJson?_toJson d.bases
  have hunderlying :=
    Json.orDefault_map_encode TypeRef.ofJson?_toJson TypeRef.toJson_ne_null d.underlying
  have hoperators := Json.orDefault_unlessEmpty ConversionOperator.ofJson?_toJson d.operators
  rw [toJson_eq, ofJson?, d.membersUsable_others, hheader, d.record?_ownMembers]
  simp [d.header.ofMembers?_members hkind, hbases, hunderlying, hoperators, normalized]

theorem normalized_eq_self_iff (d : TypeDecl) : d.normalized = d ↔ d.IsNormal := by
  obtain ⟨header, bases, underlying, operators⟩ := d
  have hunderlying : underlying.map TypeRef.normalized = underlying ↔
      ∀ t, underlying = some t → t.IsNormal := by
    cases underlying with
    | none => simp
    | some t => simp [TypeRef.normalized_eq_self_iff]
  simp only [normalized, mk.injEq, map_eq_self_iff, TypeHeader.normalized_eq_self_iff,
    TypeRef.normalized_eq_self_iff, ConversionOperator.normalized_eq_self_iff, hunderlying]
  exact ⟨fun ⟨hh, hb, hu, ho⟩ => ⟨hh, hb, hu, ho⟩,
    fun h => ⟨h.header, h.bases, h.underlying, h.operators⟩⟩

end TypeDecl

namespace Snapshot

/-- The snapshot with everything in it in normal spelling. -/
def normalized (s : Snapshot) : Snapshot :=
  ⟨s.types.map TypeDecl.normalized, s.fields.map Field.normalized⟩

/-- Everything in the snapshot is in normal spelling. -/
structure IsNormal (s : Snapshot) : Prop where
  types : ∀ d ∈ s.types, d.IsNormal
  fields : ∀ f ∈ s.fields, f.IsNormal

theorem ofJson?_toJson (s : Snapshot) : ofJson? s.toJson = some s.normalized := by
  have htypes := Json.list?_ofList TypeDecl.ofJson?_toJson s.types
  have hfields := Json.list?_ofList Field.ofJson?_toJson s.fields
  simp [ofJson?, toJson, Json.record?, Json.member?, htypes, hfields, normalized]

theorem normalized_eq_self_iff (s : Snapshot) : s.normalized = s ↔ s.IsNormal := by
  obtain ⟨types, fields⟩ := s
  simp only [normalized, mk.injEq, map_eq_self_iff, TypeDecl.normalized_eq_self_iff,
    Field.normalized_eq_self_iff]
  exact ⟨fun ⟨ht, hf⟩ => ⟨ht, hf⟩, fun h => ⟨h.types, h.fields⟩⟩

instance (s : Snapshot) : Decidable s.IsNormal := decidable_of_iff _ s.normalized_eq_self_iff

/-- A snapshot that is written can be read again, and it comes back as it was
exactly if it is in normal form. -/
theorem ofJson?_toJson_eq_self_iff (s : Snapshot) :
    (∃ t, ofJson? s.toJson = some t) ∧ (ofJson? s.toJson = some s ↔ s.IsNormal) := by
  refine ⟨⟨s.normalized, s.ofJson?_toJson⟩, ?_⟩
  rw [ofJson?_toJson, Option.some.injEq, normalized_eq_self_iff]

end Snapshot

end AccessorGen
