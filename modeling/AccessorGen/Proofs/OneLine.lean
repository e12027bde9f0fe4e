import AccessorGen.Proofs.Casts
import AccessorGen.Proofs.Grouping
import AccessorGen.Proofs.Outcomes
import AccessorGen.Proofs.SourceLines

set_option autoImplicit false

/-!
# Names on one line

If no name and no type in the fields of a snapshot holds a line end, then no
line of a generated unit does.  The names in a unit come from the snapshot as
they are, but for the name of an accessor, part of which is put in upper case.
-/

namespace AccessorGen

/-! ## Names -/

namespace Text

theorem isOneLine_intercalate {separator : String} {parts : List String}
    (hseparator : IsOneLine separator) (hparts : ∀ part ∈ parts, IsOneLine part) :
    IsOneLine (separator.intercalate parts) := by
  induction parts with
  | nil => simp [IsOneLine]
  | cons part rest ih =>
    have hpart := hparts part List.mem_cons_self
    have hrest := ih fun other hother => hparts other (List.mem_cons_of_mem part hother)
    cases rest with
    | nil => simpa using hpart
    | cons next rest =>
      rw [String.intercalate_cons_cons, isOneLine_append, isOneLine_append]
      exact ⟨⟨hpart, hseparator⟩, hrest⟩

theorem eq_of_ofNat_eq_newline {n : Nat} (h : Char.ofNat n = '\n') : n = 10 := by
  by_cases hvalid : n.isValidChar
  · rw [Char.ofNat, dif_pos hvalid] at h
    exact congrArg (fun c : Char => c.val.toNat) h
  · rw [Char.ofNat, dif_neg hvalid] at h
    exact absurd h (by decide)

theorem exists_image_le_of_shifted? {n m : Nat} {shifts : List CaseShift}
    (h : shifted? n shifts = some m) : ∃ s ∈ shifts, s.image ≤ m := by
  induction shifts with
  | nil => simp [shifted?] at h
  | cons s rest ih =>
    unfold shifted? at h
    split at h
    · split at h
      · obtain rfl := Option.some.inj h
        exact ⟨s, List.mem_cons_self, Nat.le_add_right _ _⟩
      · simp at h
    · obtain ⟨t, ht, hle⟩ := ih h
      exact ⟨t, List.mem_cons_of_mem s ht, hle⟩

/-- No character but a line end has one in its upper case: all images in the
tables are further up. -/
theorem newline_not_mem_uppercase {c : Char} (hc : c ≠ '\n') : '\n' ∉ uppercase c := by
  have hexpansions : ∀ e ∈ caseExpansions, 10 ∉ e.2 := by decide +kernel
  have hshifts : ∀ s ∈ caseShifts, 10 < s.image := by decide +kernel
  intro h
  unfold uppercase at h
  split at h
  · rename_i images himages
    obtain ⟨before, after, htable, -⟩ := List.lookup_eq_some_iff.mp himages
    have hmem : (c.toNat, images) ∈ caseExpansions := by simp [htable]
    obtain ⟨n, hn, hnewline⟩ := List.mem_map.mp h
    rw [eq_of_ofNat_eq_newline hnewline] at hn
    exact hexpansions _ hmem hn
  · split at h
    · rename_i n hn
      have hten := eq_of_ofNat_eq_newline (List.mem_singleton.mp h).symm
      obtain ⟨s, hs, hle⟩ := exists_image_le_of_shifted? hn
      have hlt := hshifts s hs
      omega
    · exact hc (List.mem_singleton.mp h).symm

end Text

theorem AccessorName.newline_not_mem_promote? {cs ds : List Char} (h : promote? cs = some ds)
    (hcs : '\n' ∉ cs) : '\n' ∉ ds := by
  induction cs with
  | nil => simp [promote?] at h
  | cons c rest ih =>
    have hc : c ≠ '\n' := fun heq => hcs (heq ▸ List.mem_cons_self)
    have hrest : '\n' ∉ rest := fun hmem => hcs (List.mem_cons_of_mem c hmem)
    unfold promote? at h
    split at h
    · obtain rfl := Option.some.inj h
      intro hmem
      rcases List.mem_append.mp hmem with hmem | hmem
      · exact Text.newline_not_mem_uppercase hc hmem
      · exact hrest hmem
    · exact ih h hrest

namespace TypeRef

/-- No path in the reference holds a line end. -/
def IsOneLine (t : TypeRef) : Prop := ∀ path ∈ t.paths, Text.IsOneLine path

instance (t : TypeRef) : Decidable t.IsOneLine :=
  inferInstanceAs (Decidable (∀ path ∈ t.paths, Text.IsOneLine path))

theorem isOneLine_rankText (rank : UInt8) : Text.IsOneLine (rankText rank) := by
  simp [rankText, Text.IsOneLine]

/-- What is written around the paths of a reference holds no line end. -/
theorem isOneLine_text {t : TypeRef} (h : t.IsOneLine) : Text.IsOneLine t.text := by
  induction t with
  | named path args ih =>
    have hpath : Text.IsOneLine path := h path List.mem_cons_self
    have hargs : ∀ part ∈ args.map text, Text.IsOneLine part := by
      intro part hpart
      obtain ⟨arg, harg, rfl⟩ := List.mem_map.mp hpart
      refine ih arg harg fun p hp => h p (List.mem_cons_of_mem path ?_)
      exact mem_allPaths_iff.mpr ⟨arg, harg, hp⟩
    cases args with
    | nil => exact hpath
    | cons arg args =>
      rw [text, texts_eq_map, ← List.map_cons]
      simp only [Text.isOneLine_append]
      exact ⟨⟨⟨hpath, by decide⟩, Text.isOneLine_intercalate (by decide) hargs⟩, by decide⟩
  | array element rank ih =>
    rw [text, Text.isOneLine_append]
    exact ⟨ih h, isOneLine_rankText rank⟩
  | nullable inner ih =>
    rw [text, Text.isOneLine_append]
    exact ⟨ih h, by decide⟩

end TypeRef

/-- No name in the header holds a line end. -/
structure TypeHeader.IsOneLine (h : TypeHeader) : Prop where
  scope : ∀ scope, h.scope = some scope → Text.IsOneLine scope
  name : Text.IsOneLine h.name
  params : ∀ param ∈ h.params, Text.IsOneLine param

theorem TypeHeader.isOneLine_declaredName {h : TypeHeader} (hh : h.IsOneLine) :
    Text.IsOneLine h.declaredName := by
  unfold declaredName withParams
  split
  · exact hh.name
  · simp only [Text.isOneLine_append]
    exact ⟨⟨⟨hh.name, by decide⟩, Text.isOneLine_intercalate (by decide) hh.params⟩, by decide⟩

/-- No name and no type of the field holds a line end, nor does any type among
the arguments of its attributes. -/
structure Field.IsOneLine (f : Field) : Prop where
  ident : Text.IsOneLine f.ident
  type : f.type.IsOneLine
  container : f.container.IsOneLine
  arguments : ∀ a ∈ f.attributes, ∀ t, .type t ∈ a.args → t.IsOneLine

/-- No name and no type in the fields holds a line end.  The declared types take
no part in the text of units. -/
def Snapshot.IsOneLine (s : Snapshot) : Prop := ∀ f ∈ s.fields, f.IsOneLine

/-! ## Accessors and groups -/

/-- The names and types written for the accessor hold no line end. -/
structure Accessor.IsOneLine (a : Accessor) : Prop where
  name : Text.IsOneLine a.name
  field : Text.IsOneLine a.field
  type : Text.IsOneLine a.type.text
  getter : ∀ t, a.getter = .cast t → Text.IsOneLine t.text
  setter : ∀ s t, a.setter = some s → s.passage = .cast t → Text.IsOneLine t.text

theorem Passage.isOneLine_apply {value : String} {p : Passage} (hvalue : Text.IsOneLine value)
    (hcast : ∀ t, p = .cast t → Text.IsOneLine t.text) : Text.IsOneLine (p.apply value) := by
  cases p with
  | direct => exact hvalue
  | cast t =>
    simp only [apply, Text.isOneLine_append]
    exact ⟨⟨⟨by decide, hcast t rfl⟩, by decide⟩, hvalue⟩

theorem Visibility.isOneLine_text (v : Visibility) : Text.IsOneLine v.text := by
  cases v <;> decide

theorem TypeKind.isOneLine_text (k : TypeKind) : Text.IsOneLine k.text := by
  cases k <;> decide

/-! ## What is written in a unit -/

section Written

variable {p : String → Prop}

theorem Settings.eachWritten_headerItems (s : Settings) (hmark : p "// <auto-generated />") :
    SourceItem.EachWritten p s.headerItems := by
  unfold headerItems
  split
  · exact SourceItem.eachWritten_line.mpr ⟨hmark, SourceItem.eachWritten_nil⟩
  · exact SourceItem.eachWritten_nil

/-- The lines of an accessor are its declaration, that of its getter with one
statement, and that of its setter with another one. -/
theorem Accessor.eachWritten_items {a : Accessor}
    (hdeclaration : p (a.policy.visibility.text ++ " " ++ a.type.text ++ " " ++ a.name))
    (hget : p "get") (hreturn : p ("return " ++ a.getter.apply ("this." ++ a.field) ++ ";"))
    (hset : p "set") (hprivate : p "private set")
    (hassign : ∀ s, a.setter = some s →
      p ("this." ++ a.field ++ " = " ++ s.passage.apply "value" ++ ";")) :
    SourceItem.EachWritten p a.items := by
  have hsetter : SourceItem.EachWritten p a.setterItems := by
    unfold setterItems
    split
    · exact SourceItem.eachWritten_nil
    · rename_i s hsome
      have hkeyword : p (if s.isPrivate then "private set" else "set") := by
        split
        · exact hprivate
        · exact hset
      simp [hkeyword, hassign s hsome]
  simp [items, getterItems, hdeclaration, hget, hreturn, hsetter]

/-- The lines of a group's unit are that of the namespace, if there is one, that
of the type and those of the accessors. -/
theorem AccessorGroup.eachWritten_items {g : AccessorGroup}
    (hscope : ∀ scope, g.header.scope = some scope → p ("namespace " ++ scope))
    (hopening : p ("partial " ++ g.header.kind.text ++ " " ++ g.header.declaredName))
    (haccessors : ∀ a ∈ g.accessors, SourceItem.EachWritten p a.items) :
    SourceItem.EachWritten p g.items := by
  have hbody :
      SourceItem.EachWritten p (SourceItem.separated (g.accessors.map Accessor.items)) := by
    refine SourceItem.eachWritten_separated ?_
    intro items hitems
    obtain ⟨a, ha, rfl⟩ := List.mem_map.mp hitems
    exact haccessors a ha
  have hdeclaration : SourceItem.EachWritten p g.declaration := by
    simp [declaration, hopening, hbody]
  unfold items
  split
  · rename_i scope hsome
    simp [hscope scope hsome, hdeclaration]
  · exact hdeclaration

end Written

/-- No line of an accessor holds a line end. -/
theorem Accessor.eachWritten_isOneLine_items {a : Accessor} (ha : a.IsOneLine) :
    SourceItem.EachWritten Text.IsOneLine a.items := by
  refine eachWritten_items ?_ (by decide) ?_ (by decide) (by decide) ?_
  · simp only [Text.isOneLine_append]
    exact ⟨⟨⟨⟨a.policy.visibility.isOneLine_text, by decide⟩, ha.type⟩, by decide⟩, ha.name⟩
  · have hthis : Text.IsOneLine ("this." ++ a.field) :=
      Text.isOneLine_append.mpr ⟨by decide, ha.field⟩
    simp only [Text.isOneLine_append]
    exact ⟨⟨by decide, Passage.isOneLine_apply hthis ha.getter⟩, by decide⟩
  · intro s hsome
    simp only [Text.isOneLine_append]
    exact ⟨⟨⟨⟨by decide, ha.field⟩, by decide⟩,
      Passage.isOneLine_apply (by decide) fun t => ha.setter s t hsome⟩, by decide⟩

/-- No line of a group's unit holds a line end. -/
theorem AccessorGroup.eachWritten_isOneLine_items {g : AccessorGroup}
    (hheader : g.header.IsOneLine) (haccessors : ∀ a ∈ g.accessors, a.IsOneLine) :
    SourceItem.EachWritten Text.IsOneLine g.items := by
  refine eachWritten_items ?_ ?_ fun a ha => Accessor.eachWritten_isOneLine_items (haccessors a ha)
  · exact fun scope hsome =>
      Text.isOneLine_append.mpr ⟨by decide, hheader.scope scope hsome⟩
  · simp only [Text.isOneLine_append]
    exact ⟨⟨⟨by decide, g.header.kind.isOneLine_text⟩, by decide⟩,
      TypeHeader.isOneLine_declaredName hheader⟩

/-! ## Where the names of an accessor come from -/

namespace Directive

namespace Annotated

variable {a : Annotated}

theorem isOneLine_accessorName (h : Text.IsOneLine a.field.ident) :
    Text.IsOneLine a.accessorName.1 := by
  unfold accessorName AccessorName.derive?
  cases hname : AccessorName.promote? a.field.ident.toList with
  | none => exact (by decide : Text.IsOneLine AccessorName.fallback)
  | some cs =>
    rw [Option.map_some, Text.IsOneLine, String.toList_ofList]
    exact AccessorName.newline_not_mem_promote? hname h

theorem isOneLine_target {r : Request} (h : a.request = .ok r) (hfield : a.field.IsOneLine)
    (hdirective : a.directive ∈ a.field.attributes) : r.target.IsOneLine := by
  rcases a.target_eq_or_mem h with htarget | htarget
  · rw [htarget]
    exact hfield.type
  · exact hfield.arguments a.directive hdirective r.target htarget

/-- No line end gets into the accessor of a field without one. -/
theorem isOneLine_of_resolved {baseName : String} {u : Universe} {accessor : Accessor}
    {shape : String} {warning : Option Diagnostic}
    (h : a.outcome baseName u = .resolved accessor shape warning) (hfield : a.field.IsOneLine)
    (hdirective : a.directive ∈ a.field.attributes) : accessor.IsOneLine := by
  obtain ⟨request, conversion, hrequest, -, rfl, -, -⟩ := outcome_eq_resolved_iff.mp h
  have htarget := TypeRef.isOneLine_text (isOneLine_target hrequest hfield hdirective)
  refine ⟨isOneLine_accessorName hfield.ident, hfield.ident, htarget, ?_, ?_⟩
  · intro t hgetter
    obtain ⟨-, rfl⟩ := Accessor.getter_ofField_eq_cast_iff.mp hgetter
    exact htarget
  · intro setter t hsetter hpassage
    rw [Accessor.passage_of_setter_ofField hsetter] at hpassage
    split at hpassage
    · obtain rfl := Passage.cast.inj hpassage
      exact TypeRef.isOneLine_text hfield.type
    · simp at hpassage

end Annotated

end Directive

namespace Settings

variable (settings : Settings) {s : Snapshot}

/-- Every accessor of a snapshot without line ends has none, and neither has the
header it comes with. -/
theorem isOneLine_of_mem_accessors (hs : s.IsOneLine) {p : TypeHeader × Accessor}
    (hp : p ∈ settings.accessors s) : p.1.IsOneLine ∧ p.2.IsOneLine := by
  rw [accessors_eq_filterMap] at hp
  obtain ⟨f, hf, hp⟩ := List.mem_filterMap.mp hp
  have hfield := hs f hf
  obtain ⟨accessor, haccessor, rfl⟩ := Option.map_eq_some_iff.mp hp
  obtain ⟨o, ho, hresolved⟩ := Option.bind_eq_some_iff.mp haccessor
  obtain ⟨a, ha, rfl⟩ := Option.map_eq_some_iff.mp ho
  obtain ⟨directive, hfind, rfl⟩ := Option.map_eq_some_iff.mp ha
  have hdirective : directive ∈ f.attributes := List.mem_of_find?_eq_some hfind
  cases hout : settings.outcome s ⟨f, directive⟩ with
  | skipped reason => simp [hout, Outcome.accessor?] at hresolved
  | resolved resolved shape warning =>
    rw [hout] at hresolved
    obtain rfl := Option.some.inj hresolved
    exact ⟨hfield.container,
      Directive.Annotated.isOneLine_of_resolved hout hfield hdirective⟩

/-- No line of the units of a snapshot without line ends holds one. -/
theorem areOneLine_of_mem_groups (hs : s.IsOneLine) {g : AccessorGroup}
    (hg : g ∈ settings.groups s) : SourceItem.AreOneLine (settings.headerItems ++ g.items) := by
  have hheader : g.header.IsOneLine := by
    have hmem := AccessorGroup.mem_of_mem_headers_ofAccessors (List.mem_map_of_mem hg)
    obtain ⟨p, hp, heq⟩ := List.mem_map.mp hmem
    exact heq ▸ (settings.isOneLine_of_mem_accessors hs hp).1
  have haccessors : ∀ a ∈ g.accessors, a.IsOneLine := by
    intro a ha
    obtain ⟨h, hmem⟩ := AccessorGroup.exists_of_mem_accessors hg ha
    exact (settings.isOneLine_of_mem_accessors hs hmem).2
  refine SourceItem.areOneLine_of_eachWritten (SourceItem.eachWritten_append.mpr ⟨?_, ?_⟩)
  · exact settings.eachWritten_headerItems (by decide)
  · exact AccessorGroup.eachWritten_isOneLine_items hheader haccessors

end Settings

end AccessorGen
