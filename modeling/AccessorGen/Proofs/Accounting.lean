import AccessorGen.Proofs.OneLine

set_option autoImplicit false

/-!
# Accounting

Every field with the directive on it can be accounted for in what is generated:
it is one getter in the text of a unit, or one error.  The getters are counted
as a reader of the text counts them, by the lines that read `get`.  That works
as long as no name holds a line end, because every other line begins with
another word.
-/

namespace AccessorGen

/-! ## Lines that read `get` -/

namespace Text

/-- Behind its leading spaces the line reads `get`. -/
def isGetterLine (line : String) : Bool := line.toList.dropWhile (· == ' ') == "get".toList

/-- The number of lines that read `get`. -/
def getterLines (text : String) : Nat := (lines text).countP isGetterLine

theorem isGetterLine_indented (n : Nat) (content : String) :
    isGetterLine (String.ofList (List.replicate n ' ') ++ content) = isGetterLine content := by
  unfold isGetterLine
  rw [String.toList_append, String.toList_ofList, List.dropWhile_append_of_pos (by simp)]

/-- A line that begins with a word does not read `get` if the word does not
begin with that letter. -/
theorem isGetterLine_append {word : String} (rest : String)
    (hword : word.toList.head?.any (fun c => c != ' ' && c != 'g') = true) :
    isGetterLine (word ++ rest) = false := by
  unfold isGetterLine
  cases hchars : word.toList with
  | nil => simp [hchars] at hword
  | cons c cs =>
    rw [hchars] at hword
    have hc : c ≠ ' ' ∧ c ≠ 'g' := by simpa using hword
    simp [hchars, hc]

end Text

namespace SourceItem

/-- The number of the lines of some parts that read `get`. -/
def getters (items : List SourceItem) : Nat := (contents items).countP Text.isGetterLine

@[simp] theorem getters_nil : getters [] = 0 := rfl

@[simp] theorem getters_append (items rest : List SourceItem) :
    getters (items ++ rest) = getters items + getters rest := by
  simp only [getters, contents_append, List.countP_append]

@[simp] theorem getters_line (content : String) (rest : List SourceItem) :
    getters (line content :: rest) =
      (if Text.isGetterLine content then 1 else 0) + getters rest := by
  rw [getters, contents_line, List.countP_cons, Nat.add_comm]
  rfl

@[simp] theorem getters_blank (rest : List SourceItem) :
    getters (blank :: rest) = getters rest := by
  rw [getters, contents_blank, List.countP_cons_of_neg (by decide)]
  rfl

@[simp] theorem getters_block (body rest : List SourceItem) :
    getters (block body :: rest) = getters body + getters rest := by
  rw [getters, contents_block, List.countP_append, List.countP_cons_of_neg (by decide),
    List.countP_cons_of_neg (by decide)]
  rfl

theorem getters_separated (parts : List (List SourceItem)) :
    getters (separated parts) = (parts.map getters).sum := by
  fun_induction separated parts with
  | case1 => rfl
  | case2 items => simp
  | case3 items rest hrest ih =>
    rw [getters_append, getters_blank, ih, List.map_cons, List.sum_cons]

end SourceItem

theorem SourceLine.isGetterLine_shown (indent : Nat) (l : SourceLine) :
    Text.isGetterLine (l.shown indent) = Text.isGetterLine l.content := by
  cases l with
  | blank => rfl
  | code depth content => exact Text.isGetterLine_indented (indent * depth) content

/-- However wide the indentation is, the lines that read `get` are those of the
parts. -/
theorem getterLines_sourceText (indent : Nat) {items : List SourceItem}
    (h : SourceItem.AreOneLine items) :
    Text.getterLines (sourceText indent items) = SourceItem.getters items := by
  -- Behind the last line end there is one more line, which is empty.
  have hend : [""].countP Text.isGetterLine = 0 := by decide
  rw [Text.getterLines, lines_sourceText indent h, List.countP_append, hend, Nat.add_zero,
    SourceItem.getters, SourceItem.contents, List.countP_map, List.countP_map]
  exact List.countP_congr fun l _ => by simp [l.isGetterLine_shown]

theorem Accessor.getters_setterItems (a : Accessor) : SourceItem.getters a.setterItems = 0 := by
  unfold setterItems
  split
  · rfl
  · rename_i setter _
    have hkeyword :
        Text.isGetterLine (if setter.isPrivate then "private set" else "set") = false := by
      split <;> decide
    have hassign : Text.isGetterLine
        ("this." ++ a.field ++ " = " ++ setter.passage.apply "value" ++ ";") = false := by
      simp only [String.append_assoc]
      exact Text.isGetterLine_append _ (by decide)
    simp [hkeyword, hassign]

/-- An accessor has one getter. -/
theorem Accessor.getters_items (a : Accessor) : SourceItem.getters a.items = 1 := by
  have hdeclaration : Text.isGetterLine
      (a.policy.visibility.text ++ " " ++ a.type.text ++ " " ++ a.name) = false := by
    simp only [String.append_assoc]
    exact Text.isGetterLine_append _ (by cases a.policy.visibility <;> decide)
  have hreturn : Text.isGetterLine
      ("return " ++ a.getter.apply ("this." ++ a.field) ++ ";") = false := by
    rw [String.append_assoc]
    exact Text.isGetterLine_append _ (by decide)
  have hget : Text.isGetterLine "get" = true := by decide
  simp [items, getterItems, hdeclaration, hreturn, hget, getters_setterItems]

/-- The unit of a group has as many getters as the group has accessors. -/
theorem AccessorGroup.getters_items (s : Settings) (g : AccessorGroup) :
    SourceItem.getters (s.headerItems ++ g.items) = g.accessors.length := by
  have hmark : SourceItem.getters s.headerItems = 0 := by
    unfold Settings.headerItems
    split <;> decide
  have hbody : SourceItem.getters (SourceItem.separated (g.accessors.map Accessor.items)) =
      g.accessors.length := by
    have hone : SourceItem.getters ∘ Accessor.items = fun _ => 1 := funext Accessor.getters_items
    rw [SourceItem.getters_separated, List.map_map, hone]
    simp
  have hopening : Text.isGetterLine
      ("partial " ++ g.header.kind.text ++ " " ++ g.header.declaredName) = false := by
    simp only [String.append_assoc]
    exact Text.isGetterLine_append _ (by decide)
  have hdeclaration : SourceItem.getters g.declaration = g.accessors.length := by
    simp [declaration, hopening, hbody]
  have hitems : SourceItem.getters g.items = g.accessors.length := by
    unfold items
    split
    · rename_i scope _
      have hnamespace : Text.isGetterLine ("namespace " ++ scope) = false :=
        Text.isGetterLine_append scope (by decide)
      simp [hnamespace, hdeclaration]
    · exact hdeclaration
  rw [SourceItem.getters_append, hmark, hitems, Nat.zero_add]

/-! ## Getters and errors -/

namespace Settings

variable (settings : Settings) {s : Snapshot}

/-- The units have as many lines that read `get` as there are accessors. -/
theorem sum_getterLines_sources (hs : s.IsOneLine) :
    ((settings.generate s).sources.map fun u => Text.getterLines u.unit.text).sum =
      (settings.accessors s).length := by
  have hunit : ∀ g ∈ settings.groups s,
      Text.getterLines (g.unit settings).unit.text = g.accessors.length := by
    intro g hg
    rw [← AccessorGroup.getters_items settings g,
      ← getterLines_sourceText settings.indent (settings.areOneLine_of_mem_groups hs hg),
      ← AccessorGroup.text_eq]
    rfl
  rw [generate, List.map_map, ← AccessorGroup.sum_length_ofAccessors]
  exact congrArg List.sum (List.map_congr_left hunit)

/-- A field with the directive on it is one getter in the text of the units or
one error, and there are errors exactly if such a field has no accessor. -/
theorem getterLines_add_errors (hs : s.IsOneLine) :
    ((settings.generate s).sources.map fun u => Text.getterLines u.unit.text).sum +
        (settings.generate s).diagnostics.countP (·.isError) =
      s.fields.countP (fun f => (Directive.find? settings.baseName f).isSome) ∧
    ((settings.generate s).hasErrors = true ↔
      ∃ a ∈ settings.annotated s, (settings.outcome s a).accessor? = none) := by
  constructor
  · rw [settings.sum_getterLines_sources hs]
    exact settings.length_accessors_add_errors s
  · exact settings.hasErrors_generate_iff s

end Settings

/-! ## A type of that name -/

namespace Retriever

/-- A type that is called `get`, as its namespace and its parameter are. -/
def container : TypeHeader := ⟨some "get", "get", .classType, ["get"]⟩

/-- The type of its fields. -/
def type : TypeRef := .named "get" []

/-- A field with the directive on it. -/
def field (ident : String) (args : List Literal) : Field :=
  ⟨ident, type, container, [⟨"AutoProp", args⟩], none⟩

/-- The first field gets an accessor, the second one too, with a warning, and
the third one has too many arguments. -/
def snapshot : Snapshot :=
  ⟨[], [field "get" [.type type], field "_" [.bool true],
    field "got" [.bool true, .bool true]]⟩

theorem isOneLine_field {ident : String} {args : List Literal} (hident : Text.IsOneLine ident)
    (hargs : ∀ t, .type t ∈ args → t.IsOneLine) : (field ident args).IsOneLine where
  ident := hident
  type := (by decide : type.IsOneLine)
  container :=
    { scope := fun scope h => Option.some.inj h ▸ (by decide : Text.IsOneLine "get")
      name := (by decide : Text.IsOneLine "get")
      params := (by decide : ∀ param ∈ ["get"], Text.IsOneLine param) }
  arguments := by simpa [field] using hargs

/-- Two getters are counted in the text, although other lines have names that
read `get`. -/
theorem getterLines_retriever :
    snapshot.IsOneLine ∧
      ((Settings.standard.generate snapshot).sources.map
        fun u => Text.getterLines u.unit.text).sum = 2 ∧
      (Settings.standard.generate snapshot).hasErrors = true := by
  have hlines : snapshot.IsOneLine := by
    simp only [Snapshot.IsOneLine, snapshot, List.forall_mem_cons]
    refine ⟨isOneLine_field (by decide) ?_, isOneLine_field (by decide) ?_,
      isOneLine_field (by decide) ?_, nofun⟩
    · intro t ht
      obtain rfl : t = type := by simpa using ht
      decide
    · simp
    · simp
  have haccounted := Settings.getterLines_add_errors .standard hlines
  have herrors : (Settings.standard.generate snapshot).diagnostics.countP (·.isError) = 1 := by
    rfl
  have hfields : snapshot.fields.countP
      (fun f => (Directive.find? Settings.standard.baseName f).isSome) = 3 := by rfl
  refine ⟨hlines, ?_, ?_⟩
  · have hsum := haccounted.1
    omega
  · exact haccounted.2.mpr ⟨_, List.mem_of_getElem? (i := 2) rfl, by rfl⟩

end Retriever

end AccessorGen
