import AccessorGen.Directive.Arguments
import AccessorGen.Proofs.Naming
import AccessorGen.Proofs.Trimming

set_option autoImplicit false

/-!
# Recognition

The directive is set under one of three names: the name in the settings, that
name without the ending of its class, and the name of the class that is declared
for it.  If the name in the settings is an identifier, all three are single
segments, and each of them is recognised on a field however it is anchored,
qualified and surrounded by white space.  Nothing else is recognised: the last
segment has to be the base name or the class name.
-/

namespace AccessorGen

/-! ## Segments -/

namespace Text

/-- The characters are a segment of a dotted name, with nothing to trim. -/
structure IsSegment (cs : List Char) : Prop where
  ne_nil : cs ≠ []
  plain : IsPlain cs
  no_dot : '.' ∉ cs

namespace IsSegment

variable {cs ds : List Char}

theorem append (hcs : IsSegment cs) (hds : IsSegment ds) : IsSegment (cs ++ ds) where
  ne_nil := List.append_ne_nil_of_left_ne_nil hcs.ne_nil ds
  plain := hcs.plain.append hds.plain
  no_dot := fun h => (List.mem_append.mp h).elim hcs.no_dot hds.no_dot

theorem of_append (h : IsSegment (cs ++ ds)) (hne : cs ≠ []) : IsSegment cs where
  ne_nil := hne
  plain := fun c hc => h.plain c (List.mem_append_left ds hc)
  no_dot := fun hdot => h.no_dot (List.mem_append_left ds hdot)

end IsSegment

theorem isSegment_of_check {name : String} (h : Identifier.check name = .ok ()) :
    IsSegment name.toList where
  ne_nil := fun hnil => (Identifier.check_eq_ok_iff.mp h).1 (String.toList_eq_nil_iff.mp hnil)
  plain := Identifier.isPlain_of_check h
  no_dot := Identifier.dot_not_mem_of_check h

/-- A dot is not trimmed away. -/
theorem exists_dropWhile_append_dot (cs : List Char) :
    ∃ ds, (cs ++ ['.']).dropWhile isBlank = ds ++ ['.'] := by
  have hdot : ['.'].dropWhile isBlank = ['.'] := by decide
  rw [List.dropWhile_append]
  split
  · exact ⟨[], hdot⟩
  · exact ⟨_, rfl⟩

end Text

namespace Attribute

section Padded

variable {front back name : String} (hfront : ∀ c ∈ front.toList, Text.isBlank c = true)
  (hback : ∀ c ∈ back.toList, Text.isBlank c = true) (hname : Text.IsSegment name.toList)
  (args : List Literal)
include hfront hback hname

/-- White space around a name takes part neither in the anchor nor in the last
segment. -/
theorem simpleName_pad (body : String) :
    simpleName ⟨front ++ (body ++ name) ++ back, args⟩ =
      String.ofList (Text.lastSegment
        (Text.dropGlobal (body.toList.dropWhile Text.isBlank ++ name.toList))) := by
  have htrim :
      Text.trimWith Text.isBlank (front.toList ++ (body.toList ++ name.toList) ++ back.toList) =
        body.toList.dropWhile Text.isBlank ++ name.toList :=
    Text.trimWith_pad hfront hback hname.ne_nil fun c hc => (hname.plain c hc).1
  rw [simpleName, Text.trimChars, String.toList_append, String.toList_append,
    String.toList_append, htrim]

theorem simpleName_pad_alone : simpleName ⟨front ++ name ++ back, args⟩ = name := by
  have hsimple := simpleName_pad hfront hback hname args ""
  rw [String.empty_append] at hsimple
  rw [hsimple, String.toList_empty, List.dropWhile_nil, List.nil_append,
    Text.dropGlobal_of_isPlain hname.plain, Text.lastSegment_eq_self hname.no_dot,
    String.ofList_toList]

theorem simpleName_pad_anchored :
    simpleName ⟨front ++ ("global::" ++ name) ++ back, args⟩ = name := by
  have hanchor : "global::".toList.dropWhile Text.isBlank = "global::".toList := by decide
  rw [simpleName_pad hfront hback hname, hanchor, Text.dropGlobal_anchor,
    Text.dropGlobal_of_isPlain hname.plain, Text.lastSegment_eq_self hname.no_dot,
    String.ofList_toList]

theorem simpleName_pad_qualified (q : String) :
    simpleName ⟨front ++ (q ++ "." ++ name) ++ back, args⟩ = name := by
  obtain ⟨kept, hkept⟩ := Text.exists_dropWhile_append_dot q.toList
  have hbody : (q ++ ".").toList = q.toList ++ ['.'] := by simp
  obtain ⟨behind, hbehind⟩ := Text.exists_dropGlobal_append_dot kept name.toList
  rw [simpleName_pad hfront hback hname, hbody, hkept, List.append_assoc, List.singleton_append,
    hbehind, Text.lastSegment_append_dot hname.no_dot, String.ofList_toList]

end Padded

end Attribute

/-! ## The names of the directive -/

namespace Settings

/-- The trimmed name of the directive is the base name, with or without the
ending of its class. -/
theorem trimmed_cases (s : Settings) :
    Text.trimChars s.directiveName.toList = s.baseName.toList ∨
      s.baseName.toList ≠ [] ∧
        Text.trimChars s.directiveName.toList = s.baseName.toList ++ classEnding := by
  unfold baseName
  dsimp only
  split
  · rename_i c stem hstem
    rw [String.toList_ofList]
    exact .inr ⟨List.cons_ne_nil c stem, Text.eq_append_of_dropEnding? hstem⟩
  · exact .inl String.toList_ofList.symm

variable {s : Settings} (hname : Identifier.check (Text.trim s.directiveName) = .ok ())
include hname

theorem isSegment_baseName : Text.IsSegment s.baseName.toList := by
  have hsegment := Text.isSegment_of_check hname
  rw [Text.toList_trim] at hsegment
  rcases s.trimmed_cases with htrim | ⟨hne, htrim⟩
  · rw [htrim] at hsegment
    exact hsegment
  · rw [htrim] at hsegment
    exact hsegment.of_append hne

theorem isSegment_className : Text.IsSegment s.className.toList := by
  have hending : Text.IsSegment "Attribute".toList := ⟨by decide, by decide, by decide⟩
  rw [className, String.toList_append]
  exact (isSegment_baseName hname).append hending

/-- The name in the settings is the base name or the name of the class, and all
of them are segments. -/
theorem isSegment_and_eq_of_mem {name : String}
    (hmem : name ∈ [s.baseName, s.className, Text.trim s.directiveName]) :
    Text.IsSegment name.toList ∧ (name = s.baseName ∨ name = s.className) := by
  simp only [List.mem_cons, List.not_mem_nil, or_false] at hmem
  rcases hmem with rfl | rfl | rfl
  · exact ⟨isSegment_baseName hname, .inl rfl⟩
  · exact ⟨isSegment_className hname, .inr rfl⟩
  · refine ⟨Text.isSegment_of_check hname, ?_⟩
    rcases s.trimmed_cases with htrim | ⟨-, htrim⟩
    · exact .inl (String.toList_inj.mp (by rw [Text.toList_trim, htrim]))
    · refine .inr (String.toList_inj.mp ?_)
      rw [Text.toList_trim, htrim, className, String.toList_append]
      rfl

end Settings

/-! ## Recognising it -/

namespace Directive

theorem isNamedBy_iff {baseName : String} {a : Attribute} :
    isNamedBy baseName a = true ↔
      a.simpleName = baseName ∨ a.simpleName = baseName ++ "Attribute" := by
  rw [isNamedBy, Bool.or_eq_true, beq_iff_eq, beq_iff_eq]
  refine or_congr_right ⟨fun h => ?_, fun h => ?_⟩
  · refine String.toList_inj.mp ?_
    rw [Text.eq_append_of_dropEnding? h, String.toList_append]
    rfl
  · rw [h, String.toList_append]
    exact Text.dropEnding?_append baseName.toList Settings.classEnding

/-- What is found among the fields: those with a marked attribute in their order,
each with its first one. -/
inductive Finds (marked : Attribute → Prop) : List Field → List Annotated → Prop where
  | nil : Finds marked [] []
  | plain {f : Field} {fields : List Field} {found : List Annotated}
      (hplain : ∀ a ∈ f.attributes, ¬ marked a) (hrest : Finds marked fields found) :
      Finds marked (f :: fields) found
  | annotated {f : Field} {before after : List Attribute} {a : Attribute} {fields : List Field}
      {found : List Annotated} (hattributes : f.attributes = before ++ a :: after)
      (hbefore : ∀ b ∈ before, ¬ marked b) (ha : marked a) (hrest : Finds marked fields found) :
      Finds marked (f :: fields) (⟨f, a⟩ :: found)

theorem finds_annotatedFields (baseName : String) (fields : List Field) :
    Finds (isNamedBy baseName · = true) fields (annotatedFields baseName fields) := by
  induction fields with
  | nil => exact .nil
  | cons f fields ih =>
    cases hfind : find? baseName f with
    | none =>
      have hnone : annotated? baseName f = none := by rw [annotated?, hfind]; rfl
      rw [annotatedFields, List.filterMap_cons_none hnone]
      exact .plain (List.find?_eq_none.mp hfind) ih
    | some a =>
      have hsome : annotated? baseName f = some ⟨f, a⟩ := by rw [annotated?, hfind]; rfl
      obtain ⟨ha, before, after, hattributes, hbefore⟩ := List.find?_eq_some_iff_append.mp hfind
      rw [annotatedFields, List.filterMap_cons_some hsome]
      exact .annotated hattributes (fun b hb => by simpa using hbefore b hb) ha ih

/-- The directive is recognised by its base name and by the name of its class, and
by nothing else.  If the name in the settings is an identifier, it is recognised
under that name too, and under each of the three with an anchor, with any
qualifier and with white space around it.  The fields with a directive are found
in order, each with its first one. -/
theorem isNamedBy_exact {s : Settings}
    (hname : Identifier.check (Text.trim s.directiveName) = .ok ()) :
    (∀ a : Attribute, isNamedBy s.baseName a = true ↔
      a.simpleName = s.baseName ∨ a.simpleName = s.className) ∧
    (∀ (front back q : String) (args : List Literal), (∀ c ∈ front.toList, Text.isBlank c = true) →
      (∀ c ∈ back.toList, Text.isBlank c = true) →
        ∀ name ∈ [s.baseName, s.className, Text.trim s.directiveName],
          ∀ written ∈ [name, "global::" ++ name, q ++ "." ++ name],
            isNamedBy s.baseName ⟨front ++ written ++ back, args⟩ = true) ∧
    ∀ fields : List Field,
      Finds (fun a => a.simpleName = s.baseName ∨ a.simpleName = s.className) fields
        (annotatedFields s.baseName fields) := by
  have hiff : ∀ a : Attribute, isNamedBy s.baseName a = true ↔
      a.simpleName = s.baseName ∨ a.simpleName = s.className := fun _ => isNamedBy_iff
  refine ⟨hiff, ?_, ?_⟩
  · intro front back q args hfront hback name hmem written hwritten
    obtain ⟨hsegment, hown⟩ := Settings.isSegment_and_eq_of_mem hname hmem
    have hsimple : (⟨front ++ written ++ back, args⟩ : Attribute).simpleName = name := by
      simp only [List.mem_cons, List.not_mem_nil, or_false] at hwritten
      rcases hwritten with rfl | rfl | rfl
      · exact Attribute.simpleName_pad_alone hfront hback hsegment args
      · exact Attribute.simpleName_pad_anchored hfront hback hsegment args
      · exact Attribute.simpleName_pad_qualified hfront hback hsegment args q
    rw [hiff, hsimple]
    exact hown
  · intro fields
    have hfinds := finds_annotatedFields s.baseName fields
    rw [funext fun a => propext (hiff a)] at hfinds
    exact hfinds

/-! ### A directive named after its ending -/

/-- The base name is the ending of the class, and the class has it twice. -/
def repeatedEnding : Settings := { directiveName := " AttributeAttribute\t" }

/-- The class is recognised behind a namespace, the base name alone; the ending a
third time is too much. -/
theorem isNamedBy_repeatedEnding :
    Identifier.check (Text.trim repeatedEnding.directiveName) = .ok () ∧
      isNamedBy repeatedEnding.baseName
        ⟨"\n" ++ ("global::Meta" ++ "." ++ "AttributeAttribute") ++ " ", []⟩ = true ∧
      isNamedBy repeatedEnding.baseName ⟨"" ++ "Attribute" ++ "", []⟩ = true ∧
      isNamedBy repeatedEnding.baseName ⟨"AttributeAttributeAttribute", []⟩ ≠ true := by
  have hname : Identifier.check (Text.trim repeatedEnding.directiveName) = .ok () := by rfl
  obtain ⟨hiff, hwritten, -⟩ := isNamedBy_exact hname
  refine ⟨hname, ?_, ?_, ?_⟩
  · exact hwritten "\n" " " "global::Meta" [] (List.all_eq_true.mp rfl) (List.all_eq_true.mp rfl)
      "AttributeAttribute" (by decide) _ (by decide)
  · exact hwritten "" "" "" [] (List.all_eq_true.mp rfl) (List.all_eq_true.mp rfl) "Attribute"
      (by decide) _ (by decide)
  · rw [ne_eq, hiff]
    decide

end Directive

end AccessorGen
