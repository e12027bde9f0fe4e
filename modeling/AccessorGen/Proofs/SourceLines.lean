import AccessorGen.Proofs.SourceTree

set_option autoImplicit false

/-!
# Lines of source text

A source text is the list of its lines, each with its indentation in front and a
line end behind.  If no line holds a line end of its own, cutting the text at
its line ends gives the lines back, and after the last of them nothing.
-/

namespace AccessorGen

namespace Text

/-- The text holds no line end. -/
def IsOneLine (text : String) : Prop := '\n' ∉ text.toList

instance (text : String) : Decidable (IsOneLine text) :=
  inferInstanceAs (Decidable ('\n' ∉ text.toList))

theorem isOneLine_append {first second : String} :
    IsOneLine (first ++ second) ↔ IsOneLine first ∧ IsOneLine second := by
  simp [IsOneLine]

/-- The lines of a text: what stands before, between and after its line ends. -/
def lines (text : String) : List String := (text.toList.splitOn '\n').map String.ofList

/-- Cutting lines apart undoes joining them. -/
theorem lines_join {parts : List String} (h : ∀ part ∈ parts, IsOneLine part) :
    lines (String.join (parts.map (· ++ "\n"))) = parts ++ [""] := by
  have hchars : (String.join (parts.map (· ++ "\n"))).toList.splitOn '\n' =
      parts.map String.toList ++ [[]] := by
    induction parts with
    | nil => rfl
    | cons part rest ih =>
      have hpart : '\n' ∉ part.toList := h part List.mem_cons_self
      have hrest := ih fun other hother => h other (List.mem_cons_of_mem part hother)
      rw [String.toList_join] at hrest ⊢
      rw [List.map_cons, List.flatMap_cons, String.toList_append, List.append_assoc,
        List.map_cons, List.cons_append, ← hrest]
      exact List.splitOn_append_cons_self_of_not_mem hpart _
  rw [lines, hchars]
  simp [Function.comp_def]

end Text

namespace SourceLine

/-- What stands on the line, without its indentation. -/
def content : SourceLine → String
  | blank => ""
  | code _ content => content

@[simp] theorem content_blank : blank.content = "" := rfl

@[simp] theorem content_code (depth : Nat) (content : String) :
    (code depth content).content = content := rfl

/-- The line without its end. -/
def shown (indent : Nat) : SourceLine → String
  | blank => ""
  | code depth content => String.ofList (List.replicate (indent * depth) ' ') ++ content

theorem text_eq (indent : Nat) (l : SourceLine) : l.text indent = l.shown indent ++ "\n" := by
  cases l with
  | blank => rfl
  | code depth content => rfl

/-- The indentation brings no line end. -/
theorem isOneLine_shown {indent : Nat} {l : SourceLine} (h : Text.IsOneLine l.content) :
    Text.IsOneLine (l.shown indent) := by
  cases l with
  | blank => exact h
  | code depth content =>
    refine Text.isOneLine_append.mpr ⟨?_, h⟩
    simp [Text.IsOneLine]

end SourceLine

namespace SourceItem

/-- What stands on the lines of some parts, without indentation. -/
def contents (items : List SourceItem) : List String := (allLines 0 items).map (·.content)

mutual

theorem map_content_lines (depth depth' : Nat) : ∀ item : SourceItem,
    (lines depth item).map (·.content) = (lines depth' item).map (·.content)
  | line _ => rfl
  | blank => rfl
  | block body => by
    simp only [lines, List.map_cons, List.map_append, List.map_nil, SourceLine.content_code,
      map_content_allLines (depth + 1) (depth' + 1) body]

theorem map_content_allLines (depth depth' : Nat) : ∀ items : List SourceItem,
    (allLines depth items).map (·.content) = (allLines depth' items).map (·.content)
  | [] => rfl
  | item :: rest => by
    simp only [allLines, List.map_append, map_content_lines depth depth' item,
      map_content_allLines depth depth' rest]

end

@[simp] theorem contents_nil : contents [] = [] := rfl

@[simp] theorem contents_append (items rest : List SourceItem) :
    contents (items ++ rest) = contents items ++ contents rest := by
  simp only [contents, allLines_append, List.map_append]

@[simp] theorem contents_line (content : String) (rest : List SourceItem) :
    contents (line content :: rest) = content :: contents rest := by
  simp [contents, allLines, lines]

@[simp] theorem contents_blank (rest : List SourceItem) :
    contents (blank :: rest) = "" :: contents rest := by
  simp [contents, allLines, lines]

@[simp] theorem contents_block (body rest : List SourceItem) :
    contents (block body :: rest) = opening :: contents body ++ closing :: contents rest := by
  simp [contents, allLines, lines, map_content_allLines (0 + 1) 0 body]

mutual

/-- The lines written in a part at any depth; braces and empty lines are not
among them. -/
def written : SourceItem → List String
  | line content => [content]
  | blank => []
  | block body => allWritten body

/-- The lines written in several parts. -/
def allWritten : List SourceItem → List String
  | [] => []
  | item :: rest => written item ++ allWritten rest

end

section Written

variable {α : Type} {p q : String → Prop} {content : String} {items body rest : List SourceItem}

/-- Every line that is written has a property. -/
def EachWritten (p : String → Prop) (items : List SourceItem) : Prop :=
  ∀ content ∈ allWritten items, p content

theorem EachWritten.mono (h : EachWritten p items) (himp : ∀ content, p content → q content) :
    EachWritten q items := fun content hcontent => himp content (h content hcontent)

@[simp] theorem eachWritten_nil : EachWritten p [] := nofun

@[simp] theorem eachWritten_line :
    EachWritten p (line content :: rest) ↔ p content ∧ EachWritten p rest := by
  simp [EachWritten, allWritten, written]

@[simp] theorem eachWritten_blank : EachWritten p (blank :: rest) ↔ EachWritten p rest := by
  simp [EachWritten, allWritten, written]

@[simp] theorem eachWritten_block :
    EachWritten p (block body :: rest) ↔ EachWritten p body ∧ EachWritten p rest := by
  simp only [EachWritten, allWritten, written, List.forall_mem_append]

@[simp] theorem eachWritten_append :
    EachWritten p (items ++ rest) ↔ EachWritten p items ∧ EachWritten p rest := by
  have happend : allWritten (items ++ rest) = allWritten items ++ allWritten rest := by
    induction items with
    | nil => rfl
    | cons item items ih => rw [List.cons_append, allWritten, allWritten, ih, List.append_assoc]
  simp only [EachWritten, happend, List.forall_mem_append]

theorem eachWritten_flatMap {l : List α} {f : α → List SourceItem}
    (h : ∀ a ∈ l, EachWritten p (f a)) : EachWritten p (l.flatMap f) := by
  induction l with
  | nil => exact eachWritten_nil
  | cons a l ih =>
    rw [List.flatMap_cons, eachWritten_append]
    exact ⟨h a List.mem_cons_self, ih fun b hb => h b (List.mem_cons_of_mem a hb)⟩

theorem eachWritten_separated {parts : List (List SourceItem)}
    (h : ∀ items ∈ parts, EachWritten p items) : EachWritten p (separated parts) := by
  fun_induction separated parts with
  | case1 => exact eachWritten_nil
  | case2 items => exact h items List.mem_cons_self
  | case3 items rest hrest ih =>
    rw [eachWritten_append, eachWritten_blank]
    have hothers := ih fun part hpart => h part (List.mem_cons_of_mem items hpart)
    exact ⟨h items List.mem_cons_self, hothers⟩

end Written

mutual

/-- What stands on a line is written there, or it is a brace, or nothing. -/
theorem mem_of_mem_lines {depth : Nat} : ∀ {item : SourceItem} {l : SourceLine},
    l ∈ lines depth item →
    l.content ∈ written item ∨ l.content ∈ ["", opening, closing]
  | line content, l, hl => by
    obtain rfl := List.mem_singleton.mp hl
    exact .inl List.mem_cons_self
  | blank, l, hl => by
    obtain rfl := List.mem_singleton.mp hl
    exact .inr List.mem_cons_self
  | block body, l, hl => by
    rcases List.mem_cons.mp hl with rfl | hl
    · exact .inr (by simp)
    · rcases List.mem_append.mp hl with hl | hl
      · exact mem_of_mem_allLines hl
      · obtain rfl := List.mem_singleton.mp hl
        exact .inr (by simp)

theorem mem_of_mem_allLines {depth : Nat} : ∀ {items : List SourceItem} {l : SourceLine},
    l ∈ allLines depth items →
    l.content ∈ allWritten items ∨ l.content ∈ ["", opening, closing]
  | item :: rest, l, hl => by
    rcases List.mem_append.mp hl with hl | hl
    · exact (mem_of_mem_lines hl).imp_left (List.mem_append_left _)
    · exact (mem_of_mem_allLines hl).imp_left (List.mem_append_right _)

end

/-- The parts hold no line end: what stands on a line is one line. -/
def AreOneLine (items : List SourceItem) : Prop :=
  ∀ content ∈ contents items, Text.IsOneLine content

theorem areOneLine_of_eachWritten {items : List SourceItem}
    (h : EachWritten Text.IsOneLine items) : AreOneLine items := by
  intro content hcontent
  obtain ⟨l, hl, rfl⟩ := List.mem_map.mp hcontent
  rcases mem_of_mem_allLines hl with hwritten | hother
  · exact h l.content hwritten
  · have hothers : ∀ content ∈ ["", opening, closing], Text.IsOneLine content := by decide
    exact hothers l.content hother

end SourceItem

/-- The lines of a source text are the lines of its parts. -/
theorem lines_sourceText (indent : Nat) {items : List SourceItem}
    (h : SourceItem.AreOneLine items) :
    Text.lines (sourceText indent items) =
      (SourceItem.allLines 0 items).map (·.shown indent) ++ [""] := by
  have htext : (SourceItem.allLines 0 items).map (SourceLine.text indent) =
      ((SourceItem.allLines 0 items).map (·.shown indent)).map (· ++ "\n") := by
    rw [List.map_map]
    exact List.map_congr_left fun l _ => l.text_eq indent
  rw [sourceText, htext]
  refine Text.lines_join ?_
  intro part hpart
  obtain ⟨l, hl, rfl⟩ := List.mem_map.mp hpart
  exact SourceLine.isOneLine_shown (h l.content (List.mem_map_of_mem hl))

end AccessorGen
