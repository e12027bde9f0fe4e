import AccessorGen.Directive.Definition
import AccessorGen.Proofs.Nesting
import AccessorGen.Proofs.OneLine

set_option autoImplicit false

/-!
# Layout

A generated text as a reader sees it, who knows nothing of the tree it was made
from: lines that are each closed by a line end, braces that match, and spaces in
front of a line that say how deep it stands.  The indentation says nothing that
the braces do not say, and the mark of a generated unit is a line of its own.
All of this needs is that no name in the unit holds a line end, because every
line that is not a brace begins with a word.
-/

namespace AccessorGen

open Nesting

/-! ## Lines as they are read -/

namespace Text

/-- The lines of a text that a line end closes. -/
def closedLines (text : String) : List String := (lines text).dropLast

/-- The number of spaces in front of a line. -/
def indentation (line : String) : Nat := (line.toList.takeWhile (· == ' ')).length

/-- What stands behind those spaces. -/
def unindented (line : String) : String := String.ofList (line.toList.dropWhile (· == ' '))

/-- What stands on the lines of a text, without indentation. -/
def contents (text : String) : List String := (closedLines text).map unindented

/-- A line with nothing but an opening brace leads one level down, and one with
nothing but a closing brace leads back. -/
def turn (line : String) : Int :=
  if unindented line = "\x7b" then 1 else if unindented line = "\x7d" then -1 else 0

/-- The line stands at the depth in front of it, or behind it if it leads back;
only an empty line is not indented. -/
def IsIndented (indent : Nat) (depth : Int) (line : String) : Prop :=
  line ≠ "" → (indentation line : Int) = indent * min depth (depth + turn line)

/-- Every line is closed by a line end, the braces match, and each line is
indented by its depth. -/
structure IsLaidOut (indent : Nat) (text : String) : Prop where
  closed : text = String.join ((closedLines text).map (· ++ "\n"))
  nested : IsNested turn (IsIndented indent) (closedLines text)

/-- The text begins with a character that is neither a space nor a brace. -/
def BeginsWord (text : String) : Prop :=
  text.toList.head?.any (fun c => c != ' ' && c != '\x7b' && c != '\x7d') = true

instance (text : String) : Decidable (BeginsWord text) :=
  inferInstanceAs (Decidable (_ = true))

theorem beginsWord_append {word : String} (rest : String) (h : BeginsWord word) :
    BeginsWord (word ++ rest) := by
  unfold BeginsWord at h ⊢
  cases hword : word.toList with
  | nil => simp [hword] at h
  | cons c cs => simpa [hword] using h

end Text

namespace SourceLine

variable {indent depth : Nat} {content : String}

/-- The indentation ends where what stands on the line begins. -/
theorem unindented_shown {l : SourceLine} (h : l.content.toList.head? ≠ some ' ') :
    Text.unindented (l.shown indent) = l.content := by
  have hdrop : l.content.toList.dropWhile (· == ' ') = l.content.toList := by
    cases hcontent : l.content.toList with
    | nil => rfl
    | cons c cs => exact List.dropWhile_cons_of_neg (by simpa [hcontent] using h)
  cases l with
  | blank => rfl
  | code depth content =>
    rw [content_code] at hdrop ⊢
    rw [Text.unindented, shown, String.toList_append, String.toList_ofList,
      List.dropWhile_append_of_pos (by simp), hdrop, String.ofList_toList]

theorem indentation_shown (h : content.toList.head? ≠ some ' ') :
    Text.indentation ((code depth content).shown indent) = indent * depth := by
  have htake : content.toList.takeWhile (· == ' ') = [] := by
    cases hcontent : content.toList with
    | nil => rfl
    | cons c cs => exact List.takeWhile_cons_of_neg (by simpa [hcontent] using h)
  rw [Text.indentation, shown, String.toList_append, String.toList_ofList,
    List.takeWhile_append_of_pos (by simp), htake, List.append_nil, List.length_replicate]

theorem turn_shown (h : content.toList.head? ≠ some ' ') :
    Text.turn ((code depth content).shown indent) =
      if content = SourceItem.opening then 1
      else if content = SourceItem.closing then -1 else 0 := by
  have hcontent : Text.unindented ((code depth content).shown indent) = content :=
    unindented_shown h
  rw [Text.turn, hcontent]
  rfl

/-- A line of the tree is indented by its depth there. -/
theorem isIndented_shown (h : content.toList.head? ≠ some ' ') {place : Int}
    (hplace : min place (place + Text.turn ((code depth content).shown indent)) = depth) :
    Text.IsIndented indent place ((code depth content).shown indent) := by
  intro _
  rw [hplace, indentation_shown h, Int.natCast_mul]

end SourceLine

/-! ## Braces and words -/

namespace SourceItem

theorem head?_of_beginsWord {content : String} (h : Text.BeginsWord content) :
    content.toList.head? ≠ some ' ' ∧ content ≠ opening ∧ content ≠ closing := by
  refine ⟨?_, ?_, ?_⟩
  · intro hspace
    rw [Text.BeginsWord, hspace] at h
    exact absurd h (by decide)
  · rintro rfl
    exact absurd h (by decide)
  · rintro rfl
    exact absurd h (by decide)

theorem head?_of_mem_allLines {depth : Nat} {items : List SourceItem}
    (h : EachWritten Text.BeginsWord items) {l : SourceLine} (hl : l ∈ allLines depth items) :
    l.content.toList.head? ≠ some ' ' := by
  rcases mem_of_mem_allLines hl with hwritten | hother
  · exact (head?_of_beginsWord (h l.content hwritten)).1
  · have hothers : ∀ content ∈ ["", opening, closing], content.toList.head? ≠ some ' ' := by
      decide
    exact hothers l.content hother

mutual

/-- At whatever depth a part stands, its braces match and its lines are
indented. -/
theorem isNested_lines (indent depth : Nat) : ∀ item : SourceItem,
    (∀ content ∈ written item, Text.BeginsWord content) →
    IsNested Text.turn (fun d => Text.IsIndented indent (depth + d))
      ((lines depth item).map (·.shown indent))
  | line content, h => by
    obtain ⟨hhead, hopening, hclosing⟩ := head?_of_beginsWord (h content List.mem_cons_self)
    have hturn : Text.turn ((SourceLine.code depth content).shown indent) = 0 := by
      rw [SourceLine.turn_shown hhead, if_neg hopening, if_neg hclosing]
    refine IsNested.of_flat ?_
    intro l hl
    obtain rfl := List.mem_singleton.mp hl
    refine ⟨hturn, SourceLine.isIndented_shown hhead ?_⟩
    rw [hturn]
    omega
  | blank, _ => by
    refine IsNested.of_flat ?_
    intro l hl
    obtain rfl := List.mem_singleton.mp hl
    exact ⟨(by decide : Text.turn "" = 0), fun hne => absurd rfl hne⟩
  | block body, h => by
    have hopening : Text.turn ((SourceLine.code depth opening).shown indent) = 1 := by
      rw [SourceLine.turn_shown (by decide), if_pos rfl]
    have hclosing : Text.turn ((SourceLine.code depth closing).shown indent) = -1 := by
      rw [SourceLine.turn_shown (by decide), if_neg (by decide), if_pos rfl]
    have hbody := isNested_allLines indent (depth + 1) body h
    rw [lines, List.map_cons, List.map_append, List.map_singleton]
    refine IsNested.wrap hopening hclosing ?_ ?_ ?_
    · refine SourceLine.isIndented_shown (by decide) ?_
      rw [hopening]
      omega
    · refine SourceLine.isIndented_shown (by decide) ?_
      rw [hclosing]
      omega
    · refine hbody.mono fun d l _ hl => ?_
      have hplace : ((depth + 1 : Nat) : Int) + d = depth + (1 + d) := by omega
      rwa [hplace] at hl

/-- The same holds of several parts. -/
theorem isNested_allLines (indent depth : Nat) : ∀ items : List SourceItem,
    EachWritten Text.BeginsWord items →
    IsNested Text.turn (fun d => Text.IsIndented indent (depth + d))
      ((allLines depth items).map (·.shown indent))
  | [], _ => IsNested.nil
  | item :: rest, h => by
    obtain ⟨hitem, hrest⟩ := List.forall_mem_append.mp h
    rw [allLines, List.map_append]
    have hothers := isNested_allLines indent depth rest hrest
    exact (isNested_lines indent depth item hitem).append hothers

end

end SourceItem

theorem closedLines_sourceText (indent : Nat) {items : List SourceItem}
    (h : SourceItem.AreOneLine items) :
    Text.closedLines (sourceText indent items) =
      (SourceItem.allLines 0 items).map (·.shown indent) := by
  rw [Text.closedLines, lines_sourceText indent h, List.dropLast_concat]

/-- A text whose lines begin with words is laid out. -/
theorem isLaidOut_sourceText (indent : Nat) {items : List SourceItem}
    (hlines : SourceItem.AreOneLine items) (hwords : SourceItem.EachWritten Text.BeginsWord items) :
    Text.IsLaidOut indent (sourceText indent items) where
  closed := by
    rw [closedLines_sourceText indent hlines, sourceText, List.map_map]
    exact congrArg String.join (List.map_congr_left fun l _ => l.text_eq indent)
  nested := by
    rw [closedLines_sourceText indent hlines]
    refine (SourceItem.isNested_allLines indent 0 items hwords).mono fun d l _ hl => ?_
    rwa [Int.natCast_zero, Int.zero_add] at hl

/-- The indentation is all that comes to what stands on the lines. -/
theorem contents_sourceText (indent : Nat) {items : List SourceItem}
    (hlines : SourceItem.AreOneLine items) (hwords : SourceItem.EachWritten Text.BeginsWord items) :
    Text.contents (sourceText indent items) = SourceItem.contents items := by
  rw [Text.contents, closedLines_sourceText indent hlines, List.map_map, SourceItem.contents]
  refine List.map_congr_left fun l hl => ?_
  exact SourceLine.unindented_shown (SourceItem.head?_of_mem_allLines hwords hl)

/-! ## Units -/

namespace Settings

/-- The text that a unit has under the settings is laid out.  Under another
indentation the same stands on its lines, and the mark of a generated unit is a
line in front of all others. -/
structure LaysOut (s : Settings) (text : Settings → String) : Prop where
  isLaidOut : Text.IsLaidOut s.indent (text s)
  contents : ∀ (indent : Nat) (marks : Bool),
    Text.contents (text { s with indent := indent, marksGenerated := marks }) =
      (if marks then ["// <auto-generated />"] else []) ++
        Text.contents (text { s with marksGenerated := false })

theorem contents_headerItems (s : Settings) :
    SourceItem.contents s.headerItems =
      if s.marksGenerated then ["// <auto-generated />"] else [] := by
  unfold headerItems
  split
  · rfl
  · rfl

/-- A unit whose body depends neither on the indentation nor on the mark is laid
out under any settings. -/
theorem laysOut_sourceText {s : Settings} {body : Settings → List SourceItem}
    (hbody : ∀ indent marks, body { s with indent := indent, marksGenerated := marks } = body s)
    (hlines : SourceItem.EachWritten Text.IsOneLine (body s))
    (hwords : SourceItem.EachWritten Text.BeginsWord (body s)) :
    s.LaysOut fun t => sourceText t.indent (t.headerItems ++ body t) := by
  have hlines' : ∀ t : Settings, SourceItem.AreOneLine (t.headerItems ++ body s) := fun t =>
    SourceItem.areOneLine_of_eachWritten
      (SourceItem.eachWritten_append.mpr ⟨t.eachWritten_headerItems (by decide), hlines⟩)
  have hwords' : ∀ t : Settings,
      SourceItem.EachWritten Text.BeginsWord (t.headerItems ++ body s) := fun t =>
    SourceItem.eachWritten_append.mpr ⟨t.eachWritten_headerItems (by decide), hwords⟩
  have hcontents : ∀ t : Settings, Text.contents (sourceText t.indent (t.headerItems ++ body s)) =
      (if t.marksGenerated then ["// <auto-generated />"] else []) ++
        SourceItem.contents (body s) := by
    intro t
    rw [contents_sourceText t.indent (hlines' t) (hwords' t), SourceItem.contents_append,
      t.contents_headerItems]
  refine ⟨isLaidOut_sourceText s.indent (hlines' s) (hwords' s), ?_⟩
  intro indent marks
  have hplain : body { s with marksGenerated := false } = body s := hbody s.indent false
  rw [hbody indent marks, hplain, hcontents, hcontents]
  rfl

end Settings

/-! ### Units of groups -/

/-- No name and no type written in the unit of the group holds a line end. -/
structure AccessorGroup.IsOneLine (g : AccessorGroup) : Prop where
  header : g.header.IsOneLine
  accessors : ∀ a ∈ g.accessors, a.IsOneLine

theorem Visibility.beginsWord_text (v : Visibility) : Text.BeginsWord v.text := by
  cases v <;> decide

/-- Every line of an accessor begins with a word. -/
theorem Accessor.eachWritten_beginsWord_items (a : Accessor) :
    SourceItem.EachWritten Text.BeginsWord a.items := by
  refine eachWritten_items ?_ (by decide) ?_ (by decide) (by decide) ?_
  · simp only [String.append_assoc]
    exact Text.beginsWord_append _ a.policy.visibility.beginsWord_text
  · rw [String.append_assoc]
    exact Text.beginsWord_append _ (by decide)
  · intro s _
    simp only [String.append_assoc]
    exact Text.beginsWord_append _ (by decide)

/-- Every line of a group's unit begins with a word. -/
theorem AccessorGroup.eachWritten_beginsWord_items (g : AccessorGroup) :
    SourceItem.EachWritten Text.BeginsWord g.items := by
  refine eachWritten_items ?_ ?_ fun a _ => a.eachWritten_beginsWord_items
  · exact fun scope _ => Text.beginsWord_append scope (by decide)
  · simp only [String.append_assoc]
    exact Text.beginsWord_append _ (by decide)

/-! ### The definition unit -/

/-- Nothing is added to the name of the directive when its base name is made. -/
theorem Settings.mem_of_mem_baseName {s : Settings} {c : Char} (h : c ∈ s.baseName.toList) :
    c ∈ s.directiveName.toList := by
  have htrim : c ∈ Text.trimChars s.directiveName.toList := by
    unfold baseName at h
    simp only at h
    split at h
    · rename_i stem hstem
      rw [Text.eq_append_of_dropEnding? hstem]
      exact List.mem_append_left _ (by simpa using h)
    · simpa using h
  rw [Text.trimChars, Text.trimWith, List.mem_reverse] at htrim
  have hfront := (List.dropWhile_sublist _).mem htrim
  exact (List.dropWhile_sublist _).mem (List.mem_reverse.mp hfront)

theorem Settings.isOneLine_className {s : Settings} (h : Text.IsOneLine s.directiveName) :
    Text.IsOneLine s.className :=
  Text.isOneLine_append.mpr ⟨fun hmem => h (mem_of_mem_baseName hmem), by decide⟩

namespace Directive

variable {className : String}

/-- The line begins with a word and holds no line end. -/
def IsCode (content : String) : Prop :=
  Text.IsOneLine content ∧ Text.BeginsWord content

instance (content : String) : Decidable (IsCode content) :=
  inferInstanceAs (Decidable (_ ∧ _))

theorem Shape.isOneLine_parameter (shape : Shape) (kind : ArgumentKind) :
    Text.IsOneLine (shape.parameter kind) := by
  cases kind with
  | type => exact (by decide : Text.IsOneLine "Type type")
  | policy => exact (by decide : Text.IsOneLine (policyEnum ++ " access"))
  | bool =>
    unfold parameter
    cases shape.boolIsSetter <;> decide
  | otherEnum => exact (by decide : Text.IsOneLine "Enum value")

theorem Shape.eachWritten_assignment (shape : Shape) (kind : ArgumentKind) :
    SourceItem.EachWritten IsCode (shape.assignment kind) := by
  cases kind with
  | type => exact SourceItem.eachWritten_line.mpr ⟨by decide, SourceItem.eachWritten_nil⟩
  | policy => exact SourceItem.eachWritten_line.mpr ⟨by decide, SourceItem.eachWritten_nil⟩
  | bool =>
    simp only [assignment]
    split
    · exact SourceItem.eachWritten_line.mpr ⟨by decide, SourceItem.eachWritten_nil⟩
    · exact SourceItem.eachWritten_nil
  | otherEnum => exact SourceItem.eachWritten_nil

theorem Shape.eachWritten_constructorItems (h : Text.IsOneLine className) (shape : Shape) :
    SourceItem.EachWritten IsCode (shape.constructorItems className) := by
  have hparameters : Text.IsOneLine (", ".intercalate (shape.signature.map shape.parameter)) := by
    refine Text.isOneLine_intercalate (by decide) ?_
    intro part hpart
    obtain ⟨kind, -, rfl⟩ := List.mem_map.mp hpart
    exact shape.isOneLine_parameter kind
  have hhead : IsCode (shape.declaration className) := by
    unfold declaration
    constructor
    · simp only [Text.isOneLine_append]
      exact ⟨⟨⟨⟨by decide, h⟩, by decide⟩, hparameters⟩, by decide⟩
    · simp only [String.append_assoc]
      exact Text.beginsWord_append _ (by decide)
  have hbody : SourceItem.EachWritten IsCode (shape.signature.flatMap shape.assignment) :=
    SourceItem.eachWritten_flatMap fun kind _ => shape.eachWritten_assignment kind
  simp [constructorItems, hhead, hbody]

theorem eachWritten_classItems (h : Text.IsOneLine className) :
    SourceItem.EachWritten IsCode (classItems className) := by
  have hclass : IsCode ("sealed class " ++ className ++ " : Attribute") := by
    constructor
    · simp only [Text.isOneLine_append]
      exact ⟨⟨by decide, h⟩, by decide⟩
    · rw [String.append_assoc]
      exact Text.beginsWord_append _ (by decide)
  have hconstructors :
      SourceItem.EachWritten IsCode (shapes.flatMap (Shape.constructorItems className)) :=
    SourceItem.eachWritten_flatMap fun shape _ => shape.eachWritten_constructorItems h
  have husage : IsCode
      "[AttributeUsage(AttributeTargets.Field, Inherited = false, AllowMultiple = false)]" := by
    decide +kernel
  have htype : IsCode "public Type Type \x7b get; set; \x7d" := by decide
  have hpolicy : IsCode ("public " ++ policyEnum ++ " AXSType \x7b get; set; \x7d") := by decide
  have hsetter : IsCode "public bool IncludeSetter \x7b get; set; \x7d" := by decide
  simp [classItems, hclass, hconstructors, husage, htype, hpolicy, hsetter]

theorem isCode_policyLine (p : AccessPolicy) : IsCode (policyLine p) := by
  cases p <;> decide +kernel

theorem eachWritten_policyItems : SourceItem.EachWritten IsCode policyItems := by
  have hflags : IsCode "[Flags]" := by decide
  have henum : IsCode ("internal enum " ++ policyEnum) := by decide
  have hpolicies :
      SourceItem.EachWritten IsCode (AccessPolicy.all.flatMap fun p => [.line (policyLine p)]) :=
    SourceItem.eachWritten_flatMap fun p _ =>
      SourceItem.eachWritten_line.mpr ⟨isCode_policyLine p, SourceItem.eachWritten_nil⟩
  simp [policyItems, hflags, henum, hpolicies]

theorem eachWritten_definitionItems {s : Settings} (hname : Text.IsOneLine s.directiveName)
    (hscope : Text.IsOneLine s.directiveScope) :
    SourceItem.EachWritten IsCode (definitionItems s) := by
  have husing : IsCode "using System;" := by decide
  have hnamespace : IsCode ("namespace " ++ s.directiveScope) :=
    ⟨Text.isOneLine_append.mpr ⟨by decide, hscope⟩, Text.beginsWord_append _ (by decide)⟩
  have hclass := eachWritten_classItems (Settings.isOneLine_className hname)
  simp [definitionItems, husing, hnamespace, hclass, eachWritten_policyItems]

end Directive

/-! ## All units -/

namespace Settings

/-- The unit of a group without line ends is laid out, and so is the definition
unit of a directive without line ends. -/
theorem units_laidOut (s : Settings) :
    (∀ g : AccessorGroup, g.IsOneLine → s.LaysOut fun t => g.text t) ∧
      (Text.IsOneLine s.directiveName → Text.IsOneLine s.directiveScope →
        s.LaysOut fun t => (Directive.definition t).text) := by
  constructor
  · intro g hg
    have hlines := AccessorGroup.eachWritten_isOneLine_items hg.header hg.accessors
    rw [funext fun t : Settings => g.text_eq t]
    exact laysOut_sourceText (fun _ _ => rfl) hlines g.eachWritten_beginsWord_items
  · intro hname hscope
    have hcode := Directive.eachWritten_definitionItems hname hscope
    rw [funext Directive.text_definition]
    exact laysOut_sourceText (fun _ _ => rfl) (hcode.mono fun _ h => h.1)
      (hcode.mono fun _ h => h.2)

end Settings

/-! ## A unit with casts -/

namespace Pavilion

/-- Settings with an odd indentation and a directive whose name has white space
around it. -/
def settings : Settings :=
  { directiveName := " PropAttribute", directiveScope := "Park.Gen", indent := 3 }

/-- The header of a type with a parameter in a namespace. -/
def header : TypeHeader := ⟨some "Park", "Pavilion", .recordStruct, ["T"]⟩

/-- An accessor that casts both ways. -/
def doors : Accessor :=
  ⟨"Doors", "_doors", .named "long" [], .array (.named "int" []) 2, .publicGetPrivateSet,
    .cast (.named "long" []), some ⟨true, .cast (.array (.named "int" []) 2)⟩⟩

/-- An accessor without a setter, whose field is called like a brace. -/
def lamp : Accessor :=
  ⟨"Lamp", "\x7b", .named "T" [], .named "T" [], .protectedInternalGet, .direct, none⟩

def group : AccessorGroup := ⟨header, [doors, lamp]⟩

theorem isOneLine_doors : doors.IsOneLine where
  name := (by decide : Text.IsOneLine "Doors")
  field := (by decide : Text.IsOneLine "_doors")
  type := (by decide : Text.IsOneLine (TypeRef.named "long" []).text)
  getter := by
    intro t ht
    obtain rfl := Passage.cast.inj ht
    decide
  setter := by
    intro setter t hsetter ht
    obtain rfl := Option.some.inj hsetter
    obtain rfl := Passage.cast.inj ht
    decide

theorem isOneLine_lamp : lamp.IsOneLine where
  name := (by decide : Text.IsOneLine "Lamp")
  field := (by decide : Text.IsOneLine "\x7b")
  type := (by decide : Text.IsOneLine (TypeRef.named "T" []).text)
  getter := nofun
  setter := nofun

theorem isOneLine_group : group.IsOneLine where
  header :=
    { scope := fun scope h => Option.some.inj h ▸ (by decide : Text.IsOneLine "Park")
      name := (by decide : Text.IsOneLine "Pavilion")
      params := (by decide : ∀ param ∈ ["T"], Text.IsOneLine param) }
  accessors := List.forall_mem_cons.mpr
    ⟨isOneLine_doors, List.forall_mem_cons.mpr ⟨isOneLine_lamp, nofun⟩⟩

/-- Both units are laid out, although a field is called like a brace. -/
theorem laidOut_pavilion :
    group.IsOneLine ∧ Text.IsOneLine settings.directiveName ∧
      Text.IsOneLine settings.directiveScope ∧
      (settings.LaysOut fun t => group.text t) ∧
      settings.LaysOut fun t => (Directive.definition t).text := by
  have hname : Text.IsOneLine settings.directiveName := by decide
  have hscope : Text.IsOneLine settings.directiveScope := by decide
  obtain ⟨hgroups, hdefinition⟩ := settings.units_laidOut
  exact ⟨isOneLine_group, hname, hscope, hgroups group isOneLine_group, hdefinition hname hscope⟩

end Pavilion

end AccessorGen
