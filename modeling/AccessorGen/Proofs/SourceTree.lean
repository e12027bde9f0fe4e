import AccessorGen.Directive.Definition

set_option autoImplicit false

/-!
# Trees of source text

What is written is a tree of lines and blocks: whatever is written between the
opening and the closing of a block is the block's body, and at its end the
writer is as deep as at its beginning.  So the braces of a unit match, and a
line's depth is its depth in the tree.  Every function that writes has the tree
that it writes, and a text is the text of its tree.
-/

namespace AccessorGen

/-! ## Trees -/

/-- A part of a source text. -/
inductive SourceItem where
  /-- A line. -/
  | line (content : String)
  /-- An empty line, which is not indented. -/
  | blank
  /-- A body between braces, each brace on a line of its own. -/
  | block (body : List SourceItem)
  deriving Repr, Inhabited

/-- A line at its depth, or an empty one. -/
inductive SourceLine where
  | blank
  | code (depth : Nat) (content : String)
  deriving DecidableEq, Repr, Inhabited

namespace SourceItem

/-- The line that opens a block. -/
def opening : String := "\x7b"

/-- The line that closes a block. -/
def closing : String := "\x7d"

mutual

/-- The lines of a part at some depth. -/
def lines (depth : Nat) : SourceItem → List SourceLine
  | line content => [.code depth content]
  | blank => [.blank]
  | block body =>
    .code depth opening :: (allLines (depth + 1) body ++ [.code depth closing])

/-- The lines of several parts at some depth. -/
def allLines (depth : Nat) : List SourceItem → List SourceLine
  | [] => []
  | item :: rest => lines depth item ++ allLines depth rest

end

/-- The parts with an empty line between each two. -/
def separated : List (List SourceItem) → List SourceItem
  | [] => []
  | [items] => items
  | items :: rest => items ++ blank :: separated rest

theorem separated_cons (items : List SourceItem) (rest : List (List SourceItem)) :
    separated (items :: rest) = items ++ rest.flatMap (blank :: ·) := by
  induction rest generalizing items with
  | nil => simp [separated]
  | cons next rest ih =>
    rw [separated, ih, List.flatMap_cons, List.cons_append]
    exact List.cons_ne_nil next rest

theorem allLines_append (depth : Nat) (items rest : List SourceItem) :
    allLines depth (items ++ rest) = allLines depth items ++ allLines depth rest := by
  induction items with
  | nil => rfl
  | cons item items ih => simp [allLines, ih]

end SourceItem

/-- The line with its indentation and its end. -/
def SourceLine.text (indent : Nat) : SourceLine → String
  | blank => "\n"
  | code depth content =>
    String.ofList (List.replicate (indent * depth) ' ') ++ content ++ "\n"

/-- The text of a list of parts. -/
def sourceText (indent : Nat) (items : List SourceItem) : String :=
  String.join ((SourceItem.allLines 0 items).map (SourceLine.text indent))

/-! ## Writing a tree -/

/-- The line with its end, indented by so many levels. -/
def SourceLine.textIn (unit : String) : SourceLine → String
  | blank => "\n"
  | code depth content => String.join (List.replicate depth unit) ++ content ++ "\n"

namespace SourceWriter

/-- Writes parts at the present depth. -/
def append (w : SourceWriter) (items : List SourceItem) : SourceWriter :=
  { w with
    text := w.text ++
      String.join ((SourceItem.allLines w.depth items).map (SourceLine.textIn w.unit)) }

@[simp] theorem append_nil (w : SourceWriter) : w.append [] = w := by
  simp [append, SourceItem.allLines]

@[simp] theorem append_append (w : SourceWriter) (items rest : List SourceItem) :
    (w.append items).append rest = w.append (items ++ rest) := by
  simp [append, SourceItem.allLines_append, String.append_assoc]

@[simp] theorem line_eq (w : SourceWriter) (content : String) :
    w.line content = w.append [.line content] := by
  simp [line, append, SourceItem.allLines, SourceItem.lines, SourceLine.textIn,
    String.append_assoc]

@[simp] theorem blank_eq (w : SourceWriter) : w.blank = w.append [.blank] := by
  simp [blank, append, SourceItem.allLines, SourceItem.lines, SourceLine.textIn]

/-- What is written in a block that is opened and closed is its body. -/
@[simp] theorem closeBlock_append_openBlock (w : SourceWriter) (body : List SourceItem) :
    (w.openBlock.append body).closeBlock = w.append [.block body] := by
  simp only [closeBlock, openBlock, line, append, SourceItem.allLines, SourceItem.lines,
    SourceItem.opening, SourceItem.closing, Nat.add_sub_cancel, List.append_nil, List.map_cons,
    List.map_append, List.map_nil, String.join_cons, String.join_append, String.join_nil,
    SourceLine.textIn, String.append_assoc, String.append_empty]

/-- A loop writes what its turns write. -/
theorem foldl_eq_append {α : Type} {l : List α} {write : SourceWriter → α → SourceWriter}
    {items : α → List SourceItem} (h : ∀ a ∈ l, ∀ w, write w a = w.append (items a))
    (w : SourceWriter) : l.foldl write w = w.append (l.flatMap items) := by
  induction l generalizing w with
  | nil => exact w.append_nil.symm
  | cons a rest ih =>
    obtain ⟨ha, hrest⟩ := List.forall_mem_cons.mp h
    rw [List.foldl_cons, ha, ih hrest, append_append, List.flatMap_cons]

/-- From the beginning on, the text is that of the parts. -/
theorem text_append_start (indent : Nat) (items : List SourceItem) :
    ((start indent).append items).text = sourceText indent items := by
  have hunit : ∀ depth, String.join (List.replicate depth (start indent).unit) =
      String.ofList (List.replicate (indent * depth) ' ') := by
    intro depth
    rw [← String.toList_inj]
    induction depth with
    | zero => rfl
    | succ depth ih =>
      rw [List.replicate_succ, String.join_cons, String.toList_append, ih, Nat.mul_succ,
        Nat.add_comm, ← List.replicate_append_replicate]
      simp [start]
  have hlines : SourceLine.textIn (start indent).unit = SourceLine.text indent := by
    funext l
    cases l with
    | blank => rfl
    | code depth content => rw [SourceLine.textIn, SourceLine.text, hunit]
  rw [append, hlines]
  exact String.empty_append

end SourceWriter

/-! ## The unit of a group -/

/-- The line that marks a unit as generated, if it is asked for. -/
def Settings.headerItems (s : Settings) : List SourceItem :=
  if s.marksGenerated then [.line "// <auto-generated />"] else []

@[simp] theorem Settings.writeMark_eq (s : Settings) (w : SourceWriter) :
    s.writeMark w = w.append s.headerItems := by
  unfold writeMark headerItems
  split
  · exact w.line_eq _
  · exact w.append_nil.symm

namespace Accessor

/-- The getter. -/
def getterItems (a : Accessor) : List SourceItem :=
  [.line "get", .block [.line ("return " ++ a.getter.apply ("this." ++ a.field) ++ ";")]]

/-- The setter, if there is one. -/
def setterItems (a : Accessor) : List SourceItem :=
  match a.setter with
  | none => []
  | some s =>
    [.line (if s.isPrivate then "private set" else "set"),
     .block [.line ("this." ++ a.field ++ " = " ++ s.passage.apply "value" ++ ";")]]

/-- The declaration of the accessor. -/
def items (a : Accessor) : List SourceItem :=
  [.line (a.policy.visibility.text ++ " " ++ a.type.text ++ " " ++ a.name),
   .block (a.getterItems ++ a.setterItems)]

theorem writeGetter_eq (a : Accessor) (w : SourceWriter) :
    a.writeGetter w = w.append a.getterItems := by
  simp [writeGetter, getterItems]

theorem writeSetter_eq (a : Accessor) (w : SourceWriter) :
    a.writeSetter w = w.append a.setterItems := by
  unfold writeSetter setterItems
  cases a.setter with
  | none => exact w.append_nil.symm
  | some s => simp

theorem write_eq (a : Accessor) (w : SourceWriter) : a.write w = w.append a.items := by
  simp [write, items, writeGetter_eq, writeSetter_eq]

end Accessor

namespace AccessorGroup

/-- The part of the type's declaration that holds the accessors. -/
def declaration (g : AccessorGroup) : List SourceItem :=
  [.line ("partial " ++ g.header.kind.text ++ " " ++ g.header.declaredName),
   .block (SourceItem.separated (g.accessors.map Accessor.items))]

/-- The declaration in its namespace. -/
def items (g : AccessorGroup) : List SourceItem :=
  match g.header.scope with
  | some scope => [.line ("namespace " ++ scope), .block g.declaration]
  | none => g.declaration

/-- The empty lines stand between the accessors. -/
theorem writeAccessors_eq (g : AccessorGroup) (w : SourceWriter) :
    g.writeAccessors w = w.append (SourceItem.separated (g.accessors.map Accessor.items)) := by
  unfold writeAccessors
  cases g.accessors with
  | nil => exact w.append_nil.symm
  | cons first rest =>
    have hlater : ∀ p ∈ rest.zipIdx 1, ∀ w : SourceWriter,
        p.1.write (if 0 < p.2 then w.blank else w) = w.append (.blank :: p.1.items) := by
      intro p hp w
      have hindex : 0 < p.2 := List.le_snd_of_mem_zipIdx hp
      rw [if_pos hindex, Accessor.write_eq, SourceWriter.blank_eq, SourceWriter.append_append]
      rfl
    have hitems : (rest.zipIdx 1).flatMap (fun p => .blank :: p.1.items) =
        (rest.map Accessor.items).flatMap (SourceItem.blank :: ·) :=
      calc (rest.zipIdx 1).flatMap (fun p => .blank :: p.1.items)
        _ = ((rest.zipIdx 1).map Prod.fst).flatMap (fun a => .blank :: a.items) := by
          rw [List.flatMap_map]
        _ = rest.flatMap (fun a => .blank :: a.items) := by rw [List.zipIdx_map_fst]
        _ = (rest.map Accessor.items).flatMap (SourceItem.blank :: ·) := by
          rw [List.flatMap_map]
    have hfirst : first.write (if 0 < 0 then w.blank else w) = w.append first.items := by
      rw [if_neg (Nat.lt_irrefl 0), Accessor.write_eq]
    rw [List.zipIdx_cons, List.foldl_cons, SourceWriter.foldl_eq_append hlater, hitems,
      List.map_cons, SourceItem.separated_cons, ← SourceWriter.append_append, ← hfirst]

theorem writeDeclaration_eq (g : AccessorGroup) (w : SourceWriter) :
    g.writeDeclaration w = w.append g.declaration := by
  simp [writeDeclaration, declaration, writeAccessors_eq]

/-- The text of a group's unit is that of the mark and the group's tree. -/
theorem text_eq (s : Settings) (g : AccessorGroup) :
    g.text s = sourceText s.indent (s.headerItems ++ g.items) := by
  rw [← SourceWriter.text_append_start]
  unfold text openScope closeScope items
  cases g.header.scope with
  | none => simp [writeDeclaration_eq]
  | some scope => simp [writeDeclaration_eq]

end AccessorGroup

/-! ## The definition unit -/

namespace Directive

/-- What a constructor does with an argument of some kind. -/
def Shape.assignment (s : Shape) : ArgumentKind → List SourceItem
  | .type => [.line "Type = type;"]
  | .policy => [.line "AXSType = access;"]
  | .bool => if s.boolIsSetter then [.line "IncludeSetter = setter;"] else []
  | .otherEnum => []

/-- The constructor for a shape, with an empty line before it. -/
def Shape.constructorItems (className : String) (s : Shape) : List SourceItem :=
  [.blank, .line (s.declaration className), .block (s.signature.flatMap s.assignment)]

/-- The class of the directive. -/
def classItems (className : String) : List SourceItem :=
  [.line "[AttributeUsage(AttributeTargets.Field, Inherited = false, AllowMultiple = false)]",
   .line ("sealed class " ++ className ++ " : Attribute"),
   .block
     ([.line "public Type Type \x7b get; set; \x7d",
       .line ("public " ++ policyEnum ++ " AXSType \x7b get; set; \x7d"),
       .line "public bool IncludeSetter \x7b get; set; \x7d"] ++
       shapes.flatMap (Shape.constructorItems className))]

/-- The enum of policies. -/
def policyItems : List SourceItem :=
  [.line "[Flags]", .line ("internal enum " ++ policyEnum),
   .block (AccessPolicy.all.flatMap fun p => [.line (policyLine p)])]

/-- The definition unit below its mark. -/
def definitionItems (s : Settings) : List SourceItem :=
  [.line "using System;", .blank, .line ("namespace " ++ s.directiveScope),
    .block (classItems s.className ++ .blank :: policyItems)]

theorem Shape.writeAssignment_eq (s : Shape) (w : SourceWriter) (kind : ArgumentKind) :
    s.writeAssignment w kind = w.append (s.assignment kind) := by
  cases kind with
  | type => exact w.line_eq _
  | policy => exact w.line_eq _
  | bool =>
    simp only [writeAssignment, assignment]
    split
    · exact w.line_eq _
    · exact w.append_nil.symm
  | otherEnum => exact w.append_nil.symm

theorem Shape.writeConstructor_eq (className : String) (w : SourceWriter) (s : Shape) :
    s.writeConstructor className w.blank = w.append (s.constructorItems className) := by
  have hbody : ∀ kind ∈ s.signature, ∀ w : SourceWriter,
      s.writeAssignment w kind = w.append (s.assignment kind) :=
    fun kind _ w => s.writeAssignment_eq w kind
  simp [writeConstructor, constructorItems, SourceWriter.foldl_eq_append hbody]

theorem writeClass_eq (className : String) (w : SourceWriter) :
    writeClass className w = w.append (classItems className) := by
  have hconstructors : ∀ s ∈ shapes, ∀ w : SourceWriter,
      s.writeConstructor className w.blank = w.append (s.constructorItems className) :=
    fun s _ w => s.writeConstructor_eq className w
  simp only [writeClass, SourceWriter.foldl_eq_append hconstructors]
  simp [classItems]

theorem writePolicies_eq (w : SourceWriter) : writePolicies w = w.append policyItems := by
  have hpolicies : ∀ p ∈ AccessPolicy.all, ∀ w : SourceWriter,
      w.line (policyLine p) = w.append [.line (policyLine p)] := fun p _ w => w.line_eq _
  simp only [writePolicies, SourceWriter.foldl_eq_append hpolicies]
  simp [policyItems]

/-- The text of the definition unit is that of the mark and its tree. -/
theorem text_definition (s : Settings) :
    (definition s).text = sourceText s.indent (s.headerItems ++ definitionItems s) := by
  rw [← SourceWriter.text_append_start]
  simp [definition, writeDefinition, definitionItems, writeClass_eq, writePolicies_eq]

end Directive

end AccessorGen
