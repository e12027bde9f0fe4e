import AccessorGen.Proofs.Shadowing

set_option autoImplicit false

/-!
# Normal spelling

A name that is read is brought into normal spelling in one pass: trimmed, then
freed of its anchors.  White space behind an anchor is out of reach of the
trimming, so it stays and stands at the front of the result.  A second pass
trims it away.  In a namespace the dots around it can hide white space and
anchors in the same way.

That is the only way in which the spelling of a name that was read is not
settled.  So a reference or a header that was read comes back unchanged from a
document exactly if none of its names begins or ends with what a first pass
left behind.
-/

namespace AccessorGen

namespace Text

/-- White space stands at the front of the text. -/
def StartsBlank (text : String) : Prop := ∃ c ∈ text.toList.head?, isBlank c = true

/-- The trimmed text begins with anchors, and white space stands behind them. -/
def HasBlankBehindAnchors (text : String) : Prop :=
  ∃ n c rest, isBlank c = true ∧ trimChars text.toList = anchors (n + 1) ++ c :: rest

/-- The text needs neither trimming nor dropping of anchors. -/
def IsBare (text : String) : Prop :=
  IsTrimmed isBlank text.toList ∧ ¬ "global::".toList <+: text.toList

instance (text : String) : Decidable (StartsBlank text) := Option.decidableExistsMem _

instance (text : String) : Decidable (IsBare text) := inferInstanceAs (Decidable (_ ∧ _))

theorem isBare_of_isPlain {text : String} (h : IsPlain text.toList) : IsBare text :=
  ⟨trimWith_eq_self_iff.mp (trimChars_of_isPlain h),
    dropGlobal_eq_self_iff.mp (dropGlobal_of_isPlain h)⟩

theorem not_startsBlank_iff {text : String} :
    ¬ StartsBlank text ↔ ∀ c ∈ text.toList.head?, isBlank c = false := by
  simp [StartsBlank]

theorem not_startsBlank_of_isPlain {text : String} (h : IsPlain text.toList) :
    ¬ StartsBlank text :=
  not_startsBlank_iff.mpr (isBare_of_isPlain h).1.1

/-- A text that has been trimmed and freed of its anchors once is bare unless
white space has come to its front. -/
theorem isBare_ofList_dropGlobal_iff (cs : List Char) :
    IsBare (String.ofList (dropGlobal (trimChars cs))) ↔
      ¬ StartsBlank (String.ofList (dropGlobal (trimChars cs))) := by
  have hback : ∀ c ∈ (dropGlobal (trimChars cs)).getLast?, isBlank c = false := by
    intro c hc
    obtain ⟨n, hn⟩ := exists_eq_anchors_append (trimChars cs)
    refine (isTrimmed_trimWith isBlank cs).2 c ?_
    rw [← trimChars, hn]
    exact List.mem_getLast?_append_of_mem_getLast? hc
  have hanchor := not_anchored_dropGlobal (trimChars cs)
  rw [not_startsBlank_iff, IsBare, IsTrimmed, String.toList_ofList]
  exact ⟨fun h => h.1.1, fun h => ⟨⟨h, hback⟩, hanchor⟩⟩

/-- White space comes to the front exactly if it stands behind anchors. -/
theorem startsBlank_ofList_dropGlobal_iff (text : String) :
    StartsBlank (String.ofList (dropGlobal (trimChars text.toList))) ↔
      HasBlankBehindAnchors text := by
  rw [StartsBlank, String.toList_ofList]
  constructor
  · rintro ⟨c, hc, hblank⟩
    obtain ⟨rest, hrest⟩ := List.head?_eq_some_iff.mp hc
    obtain ⟨n, hn⟩ := exists_eq_anchors_append (trimChars text.toList)
    rw [hrest] at hn
    cases n with
    | zero =>
      -- Without an anchor the trimming would have taken the white space away.
      have hfront := (isTrimmed_trimWith isBlank text.toList).1 c (by rw [← trimChars, hn]; rfl)
      rw [hblank] at hfront
      exact absurd hfront (by simp)
    | succ n => exact ⟨n, c, rest, hblank, hn⟩
  · rintro ⟨n, c, rest, hblank, htrim⟩
    have hfree : ¬ "global::".toList <+: c :: rest := by
      rintro ⟨behind, hbehind⟩
      obtain ⟨rfl, -⟩ := List.cons.inj hbehind
      exact absurd hblank (by decide)
    rw [htrim, dropGlobal_anchors_append, dropGlobal_of_not_anchored hfree]
    exact ⟨c, rfl, hblank⟩

end Text

/-! ## Paths -/

namespace Predefined

/-- Only plain texts are names of predefined types. -/
theorem isPlain_of_ofName? {name : String} {p : Predefined} (h : ofName? name = some p) :
    Text.IsPlain name.toList := by
  rcases ofName?_eq_some_iff.mp h with rfl | rfl
  · exact p.isPlain_keyword
  · exact p.isPlain_framework

theorem keyword_ne_framework (p q : Predefined) : p.keyword ≠ q.framework := by
  intro h
  have hdot := q.dot_mem_framework
  rw [← h] at hdot
  exact p.dot_not_mem_keyword hdot

end Predefined

namespace TypeRef

/-- A path is in normal spelling exactly if it is bare and not a framework name. -/
theorem normalPath_eq_self_iff {path : String} :
    normalPath path = path ↔ Text.IsBare path ∧ ∀ p : Predefined, path ≠ p.framework := by
  constructor
  · intro h
    unfold normalPath at h
    dsimp only at h
    split at h
    · rename_i p hp
      rw [← h]
      exact ⟨Text.isBare_of_isPlain p.isPlain_keyword, p.keyword_ne_framework⟩
    · rename_i hnone
      have hbare := congrArg String.toList h
      rw [String.toList_ofList] at hbare
      refine ⟨Text.dropGlobal_trimWith_eq_self_iff.mp hbare, ?_⟩
      rintro p rfl
      rw [h, Predefined.ofName?_framework] at hnone
      exact Option.some_ne_none p hnone
  · rintro ⟨hbare, hframework⟩
    rw [normalPath, Text.trimChars, Text.dropGlobal_trimWith_eq_self_iff.mpr hbare,
      String.ofList_toList]
    cases hp : Predefined.ofName? path with
    | none => rfl
    | some p =>
      rcases Predefined.ofName?_eq_some_iff.mp hp with hkeyword | hname
      · exact hkeyword.symm
      · exact absurd hname (hframework p)

/-- The spelling of a path after one pass: a keyword, or the path without white
space around it and without anchors. -/
theorem normalPath_cases (path : String) :
    (∃ p : Predefined, normalPath path = p.keyword ∧
      Predefined.ofName? (String.ofList (Text.dropGlobal (Text.trimChars path.toList))) = some p) ∨
    (normalPath path = String.ofList (Text.dropGlobal (Text.trimChars path.toList)) ∧
      Predefined.ofName? (normalPath path) = none) := by
  unfold normalPath
  dsimp only
  split
  · rename_i p hp
    exact .inl ⟨p, rfl, hp⟩
  · rename_i hnone
    exact .inr ⟨rfl, hnone⟩

/-- One more pass leaves a path alone exactly if white space is not at its front. -/
theorem normalPath_normalPath_iff (path : String) :
    normalPath (normalPath path) = normalPath path ↔ ¬ Text.StartsBlank (normalPath path) := by
  obtain ⟨p, hp, -⟩ | ⟨hbare, hnone⟩ := normalPath_cases path
  · have hblank := Text.not_startsBlank_of_isPlain p.isPlain_keyword
    rw [hp]
    exact iff_of_true (normalPath_keyword p) hblank
  · have hframework : ∀ p : Predefined, normalPath path ≠ p.framework := by
      intro p hp
      rw [hp, Predefined.ofName?_framework] at hnone
      exact Option.some_ne_none p hnone
    rw [normalPath_eq_self_iff, and_iff_left hframework, hbare, Text.isBare_ofList_dropGlobal_iff]

/-- White space is at the front of a path that was read exactly if it stood
behind anchors. -/
theorem startsBlank_normalPath_iff (path : String) :
    Text.StartsBlank (normalPath path) ↔ Text.HasBlankBehindAnchors path := by
  rw [← Text.startsBlank_ofList_dropGlobal_iff]
  obtain ⟨p, hp, hname⟩ | ⟨hbare, -⟩ := normalPath_cases path
  · rw [hp]
    exact iff_of_false (Text.not_startsBlank_of_isPlain p.isPlain_keyword)
      (Text.not_startsBlank_of_isPlain (Predefined.isPlain_of_ofName? hname))
  · rw [hbare]

end TypeRef

/-! ## Namespaces -/

namespace TypeHeader

theorem normalScope?_eq_some_iff {scope normal : String} :
    normalScope? scope = some normal ↔
      normal ≠ "" ∧
        Text.trimDots (Text.dropGlobal (Text.trimChars scope.toList)) = normal.toList := by
  unfold normalScope?
  split
  · rename_i hnil
    rw [hnil]
    refine iff_of_false (Option.some_ne_none normal).symm ?_
    rintro ⟨hne, hempty⟩
    exact hne (String.toList_eq_nil_iff.mp hempty.symm)
  · rename_i hne
    rw [Option.some.injEq, ← String.toList_inj, String.toList_ofList]
    refine ⟨fun h => ⟨?_, h⟩, fun h => h.2⟩
    rintro rfl
    exact hne h

/-- One more pass leaves a namespace alone exactly if the dots around it have
hidden neither white space nor anchors. -/
theorem normalScope?_again_iff {scope normal : String} (h : normalScope? scope = some normal) :
    normalScope? normal = some normal ↔ Text.IsBare normal := by
  obtain ⟨hne, hnormal⟩ := normalScope?_eq_some_iff.mp h
  have hdots : Text.IsTrimmed (· == '.') normal.toList := by
    rw [← hnormal]
    exact Text.isTrimmed_trimWith _ _
  rw [normalScope?_eq_some_iff, and_iff_right hne, Text.trimDots, Text.trimChars,
    Text.trimWith_dropGlobal_trimWith_eq_self_iff, and_iff_right hdots, Text.IsBare]

end TypeHeader

/-! ## References that were read -/

namespace TypeRef

/-- The reference is put together by the constructors that bring its parts into
normal spelling. -/
inductive IsBuilt : TypeRef → Prop where
  | generic (path : String) {args : List TypeRef} (hargs : ∀ a ∈ args, IsBuilt a) :
      IsBuilt (generic path args)
  | arrayOf {element : TypeRef} (rank : UInt8) (helement : IsBuilt element) :
      IsBuilt (arrayOf element rank)
  | optional {inner : TypeRef} (hinner : IsBuilt inner) : IsBuilt (optional inner)

/-- What a value is read as: a path, or one of the other references, put together
from what smaller values are read as. -/
theorem ofUsable?_cases {j : Json} {t : TypeRef} (h : ofUsable? j = some t) :
    (∃ path, t = generic path []) ∨
    (∃ part inner, sizeOf part < sizeOf j ∧ ofUsable? part = some inner ∧ t = optional inner) ∨
    (∃ part element rank, sizeOf part < sizeOf j ∧ ofUsable? part = some element ∧
      t = arrayOf element rank) ∨
    ∃ path parts args, sizeOf parts < sizeOf j ∧ ofUsables? parts = some args ∧
      t = generic path args := by
  have hcontent : ∀ (tag : String) (content : Json),
      sizeOf content < sizeOf (Json.obj [(tag, content)]) := by
    intro tag content
    simp only [Json.obj.sizeOf_spec, List.cons.sizeOf_spec, Prod.mk.sizeOf_spec]
    omega
  revert h
  fun_cases ofUsable? j with
  | case1 path =>
    intro h
    exact .inl ⟨path, (Option.some.inj h).symm⟩
  | case2 content =>
    intro h
    obtain ⟨inner, hinner, rfl⟩ := Option.map_eq_some_iff.mp h
    exact .inr (.inl ⟨content, inner, hcontent _ content, hinner, rfl⟩)
  | case3 content part _ _ hpart element rank _ helement =>
    intro h
    exact .inr (.inr (.inl ⟨part, element, rank, hpart.trans (hcontent _ content), helement,
      (Option.some.inj h).symm⟩))
  | case6 content path =>
    intro h
    exact .inl ⟨path, (Option.some.inj h).symm⟩
  | case7 content path parts _ hparts =>
    intro h
    obtain ⟨args, hargs, rfl⟩ := Option.map_eq_some_iff.mp h
    have hsmaller : sizeOf (Json.arr parts) < sizeOf (Json.obj [("named", content)]) :=
      hparts.trans (hcontent _ content)
    rw [Json.arr.sizeOf_spec] at hsmaller
    exact .inr (.inr (.inr ⟨path, parts, args, by omega, hargs, rfl⟩))
  | case4 | case5 | case8 | case9 | case10 =>
    intro h
    exact absurd h.symm (Option.some_ne_none t)

mutual

/-- A reference that is read is built. -/
theorem isBuilt_of_ofUsable? {j : Json} {t : TypeRef} (h : ofUsable? j = some t) : t.IsBuilt := by
  obtain ⟨path, rfl⟩ | ⟨part, inner, hsmaller, hinner, rfl⟩ |
    ⟨part, element, rank, hsmaller, helement, rfl⟩ | ⟨path, parts, args, hsmaller, hargs, rfl⟩ :=
    ofUsable?_cases h
  · exact .generic path (List.forall_mem_nil _)
  · exact .optional (isBuilt_of_ofUsable? hinner)
  · exact .arrayOf rank (isBuilt_of_ofUsable? helement)
  · exact .generic path (isBuilt_of_ofUsables? hargs)
termination_by sizeOf j

/-- References that are read are built. -/
theorem isBuilt_of_ofUsables? {js : List Json} {ts : List TypeRef}
    (h : ofUsables? js = some ts) : ∀ t ∈ ts, t.IsBuilt := by
  rw [ofUsables?.eq_def] at h
  split at h
  · obtain rfl := Option.some.inj h
    exact List.forall_mem_nil _
  · split at h
    · rename_i t ts' ht hts
      obtain rfl := Option.some.inj h
      exact List.forall_mem_cons.mpr ⟨isBuilt_of_ofUsable? ht, isBuilt_of_ofUsables? hts⟩
    · exact absurd h.symm (Option.some_ne_none ts)
termination_by sizeOf js

end

/-- A reference that was built is in normal form exactly if no path in it has
white space at its front. -/
theorem IsBuilt.isNormal_iff {t : TypeRef} (h : t.IsBuilt) :
    t.IsNormal ↔ ∀ path ∈ t.paths, ¬ Text.StartsBlank path := by
  induction h with
  | @generic path args _ ih =>
    rw [TypeRef.generic, isNormal_named_iff, normalPath_normalPath_iff, paths,
      List.forall_mem_cons]
    refine and_congr_right fun _ => ?_
    constructor
    · intro hargs path hpath
      obtain ⟨a, ha, hmem⟩ := mem_allPaths_iff.mp hpath
      exact (ih a ha).mp (hargs a ha) path hmem
    · intro hpaths a ha
      exact (ih a ha).mpr fun path hpath => hpaths path (mem_allPaths_iff.mpr ⟨a, ha, hpath⟩)
  | @arrayOf element rank _ ih =>
    have hrank : 1 ≤ if rank = 0 then 1 else rank := by
      split
      · exact UInt8.le_refl 1
      · rename_i hzero
        rw [UInt8.le_iff_toNat_le]
        exact Nat.one_le_iff_ne_zero.mpr fun h => hzero (UInt8.toNat_inj.mp h)
    rw [TypeRef.arrayOf, isNormal_array_iff, and_iff_left hrank, ih, paths]
  | @optional inner _ ih =>
    rw [paths_optional, ← ih]
    cases inner with
    | nullable t => rw [optional_nullable]
    | named path args => simp [TypeRef.optional, isNormal_nullable_iff]
    | array element rank => simp [TypeRef.optional, isNormal_nullable_iff]

theorem isBuilt_of_ofJson? {j : Json} {t : TypeRef} (h : ofJson? j = some t) : t.IsBuilt := by
  unfold ofJson? at h
  split at h
  · exact isBuilt_of_ofUsable? h
  · exact absurd h.symm (Option.some_ne_none t)

/-- The path of a named type that was read is the normal spelling of what was
written. -/
theorem IsBuilt.exists_normalPath_eq {path : String} {args : List TypeRef}
    (h : IsBuilt (.named path args)) : ∃ written, normalPath written = path := by
  generalize ht : TypeRef.named path args = t at h
  cases h with
  | generic written _ => exact ⟨written, (named.inj ht).1.symm⟩
  | arrayOf rank _ => exact absurd ht nofun
  | @optional inner _ => cases inner <;> exact absurd ht nofun

end TypeRef

/-! ## Headers that were read -/

namespace TypeHeader

/-- The header has a namespace in normal spelling, if it has one. -/
def IsBuilt (h : TypeHeader) : Prop :=
  ∃ scope name kind params, h = ofParts scope name kind params

theorem isBuilt_of_ofMembers? {readKind : Json → Option TypeKind} {members : List (Option Json)}
    {h : TypeHeader} (hread : ofMembers? readKind members = some h) : h.IsBuilt := by
  unfold ofMembers? at hread
  split at hread
  · simp only [Option.bind_eq_bind, Option.bind_eq_some_iff, Option.some.injEq] at hread
    obtain ⟨scope, -, name, -, kind, -, params, -, rfl⟩ := hread
    exact ⟨scope, name, kind, params, rfl⟩
  · exact absurd hread.symm (Option.some_ne_none h)

theorem isBuilt_of_ofJson? {j : Json} {h : TypeHeader} (hread : ofJson? j = some h) :
    h.IsBuilt := by
  obtain ⟨members, -, hmembers⟩ := Option.bind_eq_some_iff.mp hread
  exact isBuilt_of_ofMembers? hmembers

/-- A header that was read is in normal form exactly if its namespace is bare. -/
theorem IsBuilt.isNormal_iff {h : TypeHeader} (hbuilt : h.IsBuilt) :
    h.IsNormal ↔ ∀ scope ∈ h.scope, Text.IsBare scope := by
  obtain ⟨written, name, kind, params, rfl⟩ := hbuilt
  refine forall₂_congr fun scope hscope => ?_
  obtain ⟨source, -, hsource⟩ := Option.bind_eq_some_iff.mp hscope
  exact normalScope?_again_iff hsource

end TypeHeader

theorem TypeDecl.isBuilt_header_of_ofJson? {j : Json} {d : TypeDecl} (h : ofJson? j = some d) :
    d.header.IsBuilt := by
  unfold ofJson? at h
  split at h
  · simp only [Option.bind_eq_bind, Option.bind_eq_some_iff] at h
    obtain ⟨-, -, members, -, header, hheader, h⟩ := h
    split at h
    · simp only [Option.bind_eq_some_iff, Option.some.injEq] at h
      obtain ⟨bases, -, underlying, -, operators, -, rfl⟩ := h
      exact TypeHeader.isBuilt_of_ofMembers? hheader
    · exact absurd h.symm (Option.some_ne_none d)
  · exact absurd h.symm (Option.some_ne_none d)

/-! ## One pass and a second one -/

/-- A path that denotes nothing declared is only brought into normal spelling. -/
theorem Universe.canonical_named_of_resolve?_eq_none {u : Universe} {path : String}
    {args : List TypeRef} (h : u.resolve? path args.length = none) :
    u.canonical (.named path args) =
      .named (TypeRef.normalPath path) (args.map u.canonical) := by
  rw [canonical, canonicals_eq_map, qualify_of_resolve?_eq_none h, TypeRef.generic]

/-- When a second pass of normal spelling changes nothing.  A path is settled
unless white space stands behind its anchors; a namespace is settled if the dots
around it hid neither white space nor anchors.  Therefore a reference that was
read comes back from a document as it was exactly if none of its paths has white
space at its front, a header exactly if its namespace is bare, and only such a
path is the canonical one of a reference that denotes nothing declared. -/
theorem normal_spelling_settled_iff (written scope : String) (j : Json) (u : Universe) :
    (TypeRef.normalPath (TypeRef.normalPath written) = TypeRef.normalPath written ↔
      ¬ Text.HasBlankBehindAnchors written) ∧
    (∀ normal, TypeHeader.normalScope? scope = some normal →
      (TypeHeader.normalScope? normal = some normal ↔ Text.IsBare normal)) ∧
    (∀ t, TypeRef.ofJson? j = some t →
      (TypeRef.ofJson? t.toJson = some t ↔ ∀ path ∈ t.paths, ¬ Text.StartsBlank path)) ∧
    (∀ h, (TypeHeader.ofJson? j = some h ∨ ∃ d, TypeDecl.ofJson? j = some d ∧ d.header = h) →
      (TypeHeader.ofJson? h.toJson = some h ↔ ∀ scope ∈ h.scope, Text.IsBare scope)) ∧
    ∀ path args, TypeRef.ofJson? j = some (.named path args) →
      u.resolve? path args.length = none →
        (u.canonical (.named path args) = .named path (args.map u.canonical) ↔
          ¬ Text.StartsBlank path) := by
  refine ⟨?_, ?_, ?_, ?_, ?_⟩
  · rw [TypeRef.normalPath_normalPath_iff, TypeRef.startsBlank_normalPath_iff]
  · intro normal h
    exact TypeHeader.normalScope?_again_iff h
  · intro t h
    rw [TypeRef.ofJson?_toJson, Option.some.injEq, TypeRef.normalized_eq_self_iff,
      (TypeRef.isBuilt_of_ofJson? h).isNormal_iff]
  · intro h hread
    have hbuilt : h.IsBuilt := by
      rcases hread with hread | ⟨d, hread, rfl⟩
      · exact TypeHeader.isBuilt_of_ofJson? hread
      · exact TypeDecl.isBuilt_header_of_ofJson? hread
    rw [TypeHeader.ofJson?_toJson, Option.some.injEq, TypeHeader.normalized_eq_self_iff,
      hbuilt.isNormal_iff]
  · intro path args h hnone
    obtain ⟨source, rfl⟩ := (TypeRef.isBuilt_of_ofJson? h).exists_normalPath_eq
    rw [Universe.canonical_named_of_resolve?_eq_none hnone, TypeRef.named.injEq,
      and_iff_left rfl, TypeRef.normalPath_normalPath_iff]

/-! ## A parcel -/

namespace Parcel

/-- The members of a named type, spelled with anchors and white space. -/
def boxDocument : Json :=
  .obj [("path", .str "\tglobal::global::Shop.Box "), ("args", .arr [.str "System.Int32"])]

/-- Boxes of numbers that may be missing. -/
def boxesDocument : Json := .obj [("nullable", .obj [("named", boxDocument)])]

def boxes : TypeRef := .nullable (.named "Shop.Box" [.named "int" []])

/-- A header whose namespace is anchored and surrounded by dots. -/
def headerDocument : Json :=
  .obj [("namespace", .str " global::.Shop.Back."), ("name", .str "Box")]

def header : TypeHeader := ⟨some "Shop.Back", "Box", .classType, []⟩

theorem ofJson?_str (path : String) : TypeRef.ofJson? (.str path) = some (.ofPath path) := by
  rw [TypeRef.ofJson?, TypeRef.ofUsable?]
  rfl

theorem ofJson?_boxesDocument : TypeRef.ofJson? boxesDocument = some boxes := by
  have hrecord : boxDocument.record? ["path", "args"] =
      some [some (.str "\tglobal::global::Shop.Box "), some (.arr [.str "System.Int32"])] := rfl
  have hargs : TypeRef.ofUsables? [.str "System.Int32"] = some [.named "int" []] := by
    simp only [TypeRef.ofUsables?, TypeRef.ofUsable?]
    rfl
  have husable : boxesDocument.isUsable = true := rfl
  rw [TypeRef.ofJson?, if_pos husable, boxesDocument, TypeRef.ofUsable?,
    TypeRef.ofUsable?_named hrecord, hargs]
  rfl

/-- The boxes and the header are settled once they are read. -/
theorem boxes_settled :
    TypeRef.ofJson? boxesDocument = some boxes ∧ TypeRef.ofJson? boxes.toJson = some boxes ∧
      TypeHeader.normalScope? " global::.Shop.Back." = some "Shop.Back" ∧
      TypeHeader.normalScope? "Shop.Back" = some "Shop.Back" ∧
      TypeHeader.ofJson? headerDocument = some header ∧
      TypeHeader.ofJson? header.toJson = some header ∧
      TypeRef.ofJson? (.str "global::Box") = some (.named "Box" []) ∧
      Universe.resolve? ⟨[]⟩ "Box" 0 = none ∧
      Universe.canonical ⟨[]⟩ (.named "Box" []) = .named "Box" [] := by
  have hboxes : TypeRef.ofJson? boxesDocument = some boxes := ofJson?_boxesDocument
  have hback : TypeHeader.normalScope? " global::.Shop.Back." = some "Shop.Back" := by rfl
  have hread : TypeHeader.ofJson? headerDocument = some header := by rfl
  have hbox : TypeRef.ofJson? (.str "global::Box") = some (.named "Box" []) := ofJson?_str _
  obtain ⟨-, hscope, htype, -, -⟩ :=
    normal_spelling_settled_iff "Box" " global::.Shop.Back." boxesDocument ⟨[]⟩
  obtain ⟨-, -, -, hheader, -⟩ := normal_spelling_settled_iff "Box" "" headerDocument ⟨[]⟩
  obtain ⟨-, -, -, -, hcanonical⟩ :=
    normal_spelling_settled_iff "Box" "" (.str "global::Box") ⟨[]⟩
  refine ⟨hboxes, (htype _ hboxes).mpr (by decide), hback, (hscope _ hback).mpr (by decide),
    hread, (hheader _ (.inl hread)).mpr (by decide), hbox, rfl, ?_⟩
  exact (hcanonical _ _ hbox rfl).mpr (by decide)

/-- White space behind an anchor hides a framework name from the first pass, but
not from the second one; dots hide white space in the same way. -/
theorem number_not_settled :
    TypeRef.ofJson? (.str "global:: System.Int32") = some (.named " System.Int32" []) ∧
      TypeRef.ofJson? (TypeRef.named " System.Int32" []).toJson = some (.named "int" []) ∧
      TypeRef.normalPath (TypeRef.normalPath "global:: System.Int32") ≠
        TypeRef.normalPath "global:: System.Int32" ∧
      Universe.resolve? ⟨[]⟩ " System.Int32" 0 = none ∧
      Universe.canonical ⟨[]⟩ (.named " System.Int32" []) = .named "int" [] ∧
      TypeHeader.normalScope? ". Shop" = some " Shop" ∧
      TypeHeader.normalScope? " Shop" = some "Shop" :=
  ⟨ofJson?_str _, ofJson?_str _, by decide, by rfl, by rfl, by rfl, by rfl⟩

end Parcel

end AccessorGen
