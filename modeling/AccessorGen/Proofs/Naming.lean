import AccessorGen.Validation
import Mathlib.Data.List.TakeWhile

set_option autoImplicit false

/-!
# Names in valid declarations

An identifier holds no white space, no colon and no dot, and a namespace holds
dots but none of the others.  The qualified name of a valid declaration is thus
in normal spelling already, unless it is the framework name of a predefined type
and gives way to the keyword.  Its last dot ends the namespace, so that the
namespace and the name can be read off it.
-/

namespace AccessorGen

/-! ## Plain texts -/

namespace Text

/-- The characters are neither white space nor colons, so that there is nothing
to trim and no anchor to drop. -/
def IsPlain (cs : List Char) : Prop := ∀ c ∈ cs, isBlank c = false ∧ c ≠ ':'

instance (cs : List Char) : Decidable (IsPlain cs) := List.decidableBAll _ cs

theorem IsPlain.append {cs ds : List Char} (hcs : IsPlain cs) (hds : IsPlain ds) :
    IsPlain (cs ++ ds) := by
  intro c hc
  rcases List.mem_append.mp hc with hc | hc
  · exact hcs c hc
  · exact hds c hc

theorem trimChars_of_isPlain {cs : List Char} (h : IsPlain cs) : trimChars cs = cs := by
  have hfront : cs.dropWhile isBlank = cs := by
    refine List.dropWhile_eq_self_iff.mpr ?_
    intro hl
    exact Bool.eq_false_iff.mp (h _ (List.getElem_mem hl)).1
  have hback : cs.reverse.dropWhile isBlank = cs.reverse := by
    refine List.dropWhile_eq_self_iff.mpr ?_
    intro hl
    exact Bool.eq_false_iff.mp (h _ (List.mem_reverse.mp (List.getElem_mem hl))).1
  rw [trimChars, trimWith, hfront, hback, List.reverse_reverse]

theorem dropGlobal_of_isPlain {cs : List Char} (h : IsPlain cs) : dropGlobal cs = cs := by
  refine dropGlobal_of_not_anchored ?_
  rintro ⟨rest, rfl⟩
  have hcolon : ':' ∈ "global::".toList ++ rest := List.mem_append_left _ (by decide)
  exact (h ':' hcolon).2 rfl

/-- A text is cut in one way only at the last place where a character stands. -/
theorem append_cons_inj {c : Char} {xs ys us vs : List Char} (hus : c ∉ us) (hvs : c ∉ vs)
    (h : xs ++ c :: us = ys ++ c :: vs) : xs = ys ∧ us = vs := by
  have hsplit := congrArg (List.splitOn c) h
  rw [List.splitOn_append_cons_self, List.splitOn_append_cons_self,
    List.splitOn_eq_singleton hus, List.splitOn_eq_singleton hvs] at hsplit
  obtain rfl : us = vs := by simpa using (List.append_inj' hsplit rfl).2
  exact ⟨List.append_cancel_right h, rfl⟩

end Text

namespace TypeRef

/-- In a plain path only a framework name is replaced. -/
theorem normalPath_of_isPlain {path : String} (h : Text.IsPlain path.toList) :
    normalPath path = ((Predefined.ofName? path).map (·.keyword)).getD path := by
  rw [normalPath, Text.trimChars_of_isPlain h, Text.dropGlobal_of_isPlain h, String.ofList_toList]
  cases Predefined.ofName? path with
  | none => rfl
  | some p => rfl

theorem normalPath_eq_self {path : String} (h : Text.IsPlain path.toList)
    (hframework : ∀ p : Predefined, path ≠ p.framework) : normalPath path = path := by
  rw [normalPath_of_isPlain h]
  cases hp : Predefined.ofName? path with
  | none => rfl
  | some p =>
    rcases Predefined.ofName?_eq_some_iff.mp hp with hkeyword | hname
    · exact hkeyword.symm
    · exact absurd hname (hframework p)

end TypeRef

/-! ## Identifiers and namespaces -/

namespace Identifier

/-- No white space is a letter, a number or an underscore: the few code points
of white space are looked up one by one. -/
theorem not_covered_of_mem_blankRuns :
    ∀ r ∈ Text.blankRuns, ∀ k ∈ List.range (r.last - r.first + 1),
      Text.covered (r.first + k) Text.alphabeticRuns = false ∧
        Text.covered (r.first + k) Text.numericRuns = false ∧ r.first + k ≠ '_'.toNat := by
  decide +kernel

theorem isPart_eq_false_of_isBlank {c : Char} (h : Text.isBlank c = true) : isPart c = false := by
  obtain ⟨r, hr, hcovers⟩ := Text.exists_mem_of_covered h
  simp only [Text.Run.covers, Bool.and_eq_true, decide_eq_true_eq] at hcovers
  obtain ⟨⟨hfirst, hlast⟩, -⟩ := hcovers
  have hk : c.toNat - r.first ∈ List.range (r.last - r.first + 1) := by
    rw [List.mem_range]
    omega
  have hn : r.first + (c.toNat - r.first) = c.toNat := by omega
  obtain ⟨halphabetic, hnumeric, hunderscore⟩ := not_covered_of_mem_blankRuns r hr _ hk
  rw [hn] at halphabetic hnumeric hunderscore
  have hne : c ≠ '_' := fun h => hunderscore (by rw [h])
  simp [isPart, Text.isAlphanumeric, Text.isAlphabetic, Text.isNumeric, halphabetic, hnumeric, hne]

theorem isPart_of_isDigit {c : Char} (h : c.isDigit = true) : isPart c = true := by
  have hdigits : ∀ k ∈ List.range 10, Text.covered (48 + k) Text.numericRuns = true := by
    decide +kernel
  simp only [Char.isDigit, Bool.and_eq_true, decide_eq_true_eq, ge_iff_le,
    UInt32.le_iff_toNat_le] at h
  have hfirst : 48 ≤ c.toNat := h.1
  have hlast : c.toNat ≤ 57 := h.2
  have hcovered := hdigits (c.toNat - 48) (List.mem_range.mpr (by omega))
  rw [Nat.add_sub_cancel' hfirst] at hcovered
  simp [isPart, Text.isAlphanumeric, Text.isNumeric, hcovered]

theorem check_eq_ok_iff {name : String} :
    check name = .ok () ↔
      name ≠ "" ∧ name.utf8ByteSize ≤ maxBytes ∧ isWellFormed name.toList = true := by
  unfold check
  split
  · simp_all
  · split
    · rename_i hlong
      simp [Nat.not_le.mpr hlong]
    · rename_i hne hshort
      split
      · simp_all
      · simp_all

/-- Behind the `@` stand characters that can stand in an identifier. -/
theorem isPart_of_mem_dropVerbatim {cs : List Char} (h : isWellFormed cs = true) {c : Char}
    (hc : c ∈ dropVerbatim cs) : isPart c = true := by
  unfold isWellFormed at h
  split at h
  · simp at h
  · rename_i first rest hdrop
    rw [Bool.and_eq_true, List.all_eq_true] at h
    rw [hdrop] at hc
    rcases List.mem_cons.mp hc with rfl | hc
    · exact isPart_of_isStart h.1
    · exact h.2 c hc

/-- Apart from an `@` at its front, an identifier holds characters that can
stand in one. -/
theorem eq_at_or_isPart_of_mem {cs : List Char} (h : isWellFormed cs = true) {c : Char}
    (hc : c ∈ cs) : c = '@' ∨ isPart c = true := by
  have hbare : ∀ d ∈ dropVerbatim cs, isPart d = true := fun _ => isPart_of_mem_dropVerbatim h
  unfold dropVerbatim at hbare
  split at hbare
  · rcases List.mem_cons.mp hc with rfl | hc
    · exact .inl rfl
    · exact .inr (hbare c hc)
  · exact .inr (hbare c hc)

/-- A character that cannot stand in an identifier is in none, apart from the `@`. -/
theorem not_mem_of_check {name : String} {c : Char} (h : check name = .ok ()) (hat : c ≠ '@')
    (hpart : isPart c = false) : c ∉ name.toList := by
  intro hc
  rcases eq_at_or_isPart_of_mem (check_eq_ok_iff.mp h).2.2 hc with hc | hc
  · exact hat hc
  · exact Bool.eq_false_iff.mp hpart hc

/-- Something stands in an identifier behind the `@`. -/
theorem exists_isPart_of_check {name : String} (h : check name = .ok ()) :
    ∃ c ∈ name.toList, isPart c = true := by
  have hwell := (check_eq_ok_iff.mp h).2.2
  unfold isWellFormed dropVerbatim at hwell
  split at hwell
  · simp at hwell
  · rename_i c rest hdrop
    rw [Bool.and_eq_true] at hwell
    refine ⟨c, ?_, isPart_of_isStart hwell.1⟩
    split at hdrop
    · rename_i hchars
      rw [hchars, hdrop]
      exact List.mem_cons_of_mem _ List.mem_cons_self
    · rw [hdrop]
      exact List.mem_cons_self

/-- An identifier is plain and holds no dot. -/
theorem plain_of_check {name : String} (h : check name = .ok ()) {c : Char}
    (hc : c ∈ name.toList) : (Text.isBlank c = false ∧ c ≠ ':') ∧ c ≠ '.' := by
  rcases eq_at_or_isPart_of_mem (check_eq_ok_iff.mp h).2.2 hc with rfl | hpart
  · decide
  · refine ⟨⟨?_, ?_⟩, ?_⟩
    · cases hblank : Text.isBlank c with
      | false => rfl
      | true =>
        rw [isPart_eq_false_of_isBlank hblank] at hpart
        exact absurd hpart (by simp)
    · rintro rfl
      exact absurd hpart (by decide +kernel)
    · rintro rfl
      exact absurd hpart (by decide +kernel)

theorem isPlain_of_check {name : String} (h : check name = .ok ()) : Text.IsPlain name.toList :=
  fun _ hc => (plain_of_check h hc).1

theorem dot_not_mem_of_check {name : String} (h : check name = .ok ()) : '.' ∉ name.toList :=
  fun hc => (plain_of_check h hc).2 rfl

end Identifier

/-- A namespace is accepted exactly if all its segments are identifiers. -/
theorem checkScope_eq_ok_iff {scope : String} :
    checkScope scope = .ok () ↔
      ∀ segment ∈ Text.segments scope, Identifier.check segment = .ok () := by
  unfold checkScope
  split
  · rename_i fault hfound
    obtain ⟨segment, hsegment, hbad⟩ := List.exists_of_findSome?_eq_some hfound
    simp only [reduceCtorEq, false_iff]
    intro hall
    rw [hall segment hsegment] at hbad
    simp at hbad
  · rename_i hnone
    simp only [true_iff]
    intro segment hsegment
    have hgood := List.findSome?_eq_none_iff.mp hnone segment hsegment
    cases hcheck : Identifier.check segment with
    | ok u => rfl
    | error fault =>
      rw [hcheck] at hgood
      simp at hgood

theorem eq_or_exists_mem_of_mem_intercalate {x c : Char} {ls : List (List Char)}
    (h : c ∈ [x].intercalate ls) : c = x ∨ ∃ l ∈ ls, c ∈ l := by
  induction ls with
  | nil => simp at h
  | cons l rest ih =>
    cases rest with
    | nil =>
      rw [List.intercalate_singleton] at h
      exact .inr ⟨l, List.mem_cons_self, h⟩
    | cons l' rest =>
      rw [List.intercalate_cons_cons, List.mem_append, List.mem_append, List.mem_singleton] at h
      rcases h with (hl | hx) | hrest
      · exact .inr ⟨l, List.mem_cons_self, hl⟩
      · exact .inl hx
      · rcases ih hrest with hx | ⟨m, hm, hcm⟩
        · exact .inl hx
        · exact .inr ⟨m, List.mem_cons_of_mem l hm, hcm⟩

/-- What is not a dot in a text stands in one of its segments. -/
theorem exists_segment_of_mem {text : String} {c : Char} (hc : c ∈ text.toList) (hdot : c ≠ '.') :
    ∃ segment ∈ Text.segments text, c ∈ segment.toList := by
  have hwhole : ['.'].intercalate (text.toList.splitOn '.') = text.toList :=
    List.intercalate_splitOn '.'
  rw [← hwhole] at hc
  rcases eq_or_exists_mem_of_mem_intercalate hc with h | ⟨l, hl, hcl⟩
  · exact absurd h hdot
  · refine ⟨String.ofList l, List.mem_map_of_mem hl, ?_⟩
    rw [String.toList_ofList]
    exact hcl

theorem not_mem_of_checkScope {scope : String} {c : Char} (h : checkScope scope = .ok ())
    (hat : c ≠ '@') (hdot : c ≠ '.') (hpart : Identifier.isPart c = false) :
    c ∉ scope.toList := by
  intro hc
  obtain ⟨segment, hsegment, hmem⟩ := exists_segment_of_mem hc hdot
  exact Identifier.not_mem_of_check (checkScope_eq_ok_iff.mp h segment hsegment) hat hpart hmem

theorem isPlain_of_checkScope {scope : String} (h : checkScope scope = .ok ()) :
    Text.IsPlain scope.toList := by
  intro c hc
  by_cases hdot : c = '.'
  · subst hdot
    decide
  · obtain ⟨segment, hsegment, hcs⟩ := exists_segment_of_mem hc hdot
    exact Identifier.isPlain_of_check (checkScope_eq_ok_iff.mp h segment hsegment) c hcs

/-! ## Headers -/

theorem failure_eq_nil_iff {ε : Type} {message : ε → String} {result : Except ε Unit} :
    failure message result = [] ↔ result = .ok () := by
  cases result with
  | ok u => simp [failure]
  | error fault => simp [failure]

namespace TypeHeader

/-- A header has no issues exactly if its names are identifiers and its
namespace is one. -/
theorem issues_eq_nil_iff (h : TypeHeader) :
    h.issues = [] ↔
      Identifier.check h.name = .ok () ∧
        (∀ scope, h.scope = some scope → checkScope scope = .ok ()) ∧
        ∀ param ∈ h.params, Identifier.check param = .ok () := by
  simp [issues, failure_eq_nil_iff]

theorem check_name {h : TypeHeader} (hh : h.issues = []) : Identifier.check h.name = .ok () :=
  ((issues_eq_nil_iff h).mp hh).1

/-- Apart from `@` and dots, a valid qualified name holds characters that can
stand in an identifier. -/
theorem not_mem_qualifiedName {h : TypeHeader} {c : Char} (hh : h.issues = []) (hat : c ≠ '@')
    (hdot : c ≠ '.') (hpart : Identifier.isPart c = false) : c ∉ h.qualifiedName.toList := by
  have hname := Identifier.not_mem_of_check (check_name hh) hat hpart
  unfold qualifiedName
  split
  · rename_i scope hs
    have hscope := not_mem_of_checkScope (((issues_eq_nil_iff h).mp hh).2.1 scope hs) hat hdot hpart
    simp [hscope, hdot, hname]
  · exact hname

theorem exists_isPart_qualifiedName {h : TypeHeader} (hh : h.issues = []) :
    ∃ c ∈ h.qualifiedName.toList, Identifier.isPart c = true := by
  obtain ⟨c, hc, hpart⟩ := Identifier.exists_isPart_of_check (check_name hh)
  refine ⟨c, ?_, hpart⟩
  unfold qualifiedName
  split
  · simp [hc]
  · exact hc

/-- The qualified name of a valid header is plain. -/
theorem isPlain_qualifiedName {h : TypeHeader} (hh : h.issues = []) :
    Text.IsPlain h.qualifiedName.toList := by
  have hscope := ((issues_eq_nil_iff h).mp hh).2.1
  have hplain := Identifier.isPlain_of_check (check_name hh)
  unfold qualifiedName
  split
  · rename_i scope hs
    have hdot : Text.IsPlain ".".toList := by
      intro c hc
      obtain rfl : c = '.' := by simpa using hc
      decide
    rw [String.toList_append, String.toList_append]
    exact ((isPlain_of_checkScope (hscope scope hs)).append hdot).append hplain
  · exact hplain

/-- The qualified name of a valid header has a dot if there is a namespace. -/
theorem dot_mem_qualifiedName_iff {h : TypeHeader} (hh : h.issues = []) :
    '.' ∈ h.qualifiedName.toList ↔ h.scope ≠ none := by
  have hname := Identifier.dot_not_mem_of_check (check_name hh)
  unfold qualifiedName
  split
  · rename_i scope hs
    simp [hs]
  · rename_i hs
    simp [hs, hname]

/-- Namespaces can be told from what stands behind them, if that holds no dot:
the last dot ends the namespace. -/
theorem scope_eq_of_qualified_eq {a b : TypeHeader} {x y : String}
    (hadot : '.' ∉ (a.name ++ x).toList) (hbdot : '.' ∉ (b.name ++ y).toList)
    (h : a.qualifiedName ++ x = b.qualifiedName ++ y) :
    a.scope = b.scope ∧ a.name ++ x = b.name ++ y := by
  unfold qualifiedName at h
  -- A header without a namespace has no dot, one with a
  -- namespace has.
  cases hascope : a.scope with
  | none =>
    cases hbscope : b.scope with
    | none => simpa [hascope, hbscope] using h
    | some scope =>
      simp only [hascope, hbscope] at h
      rw [h] at hadot
      simp at hadot
  | some ascope =>
    cases hbscope : b.scope with
    | none =>
      simp only [hascope, hbscope] at h
      rw [← h] at hbdot
      simp at hbdot
    | some bscope =>
      simp only [hascope, hbscope, String.append_assoc] at h
      have hchars : ascope.toList ++ '.' :: (a.name ++ x).toList =
          bscope.toList ++ '.' :: (b.name ++ y).toList := by
        simpa using congrArg String.toList h
      obtain ⟨hscope, hmarked⟩ := Text.append_cons_inj hadot hbdot hchars
      exact ⟨congrArg some (String.toList_inj.mp hscope), String.toList_inj.mp hmarked⟩

/-- The qualified name of a valid header tells its namespace and its name. -/
theorem qualifiedName_inj {a b : TypeHeader} (ha : a.issues = []) (hb : b.issues = []) :
    a.qualifiedName = b.qualifiedName ↔ a.scope = b.scope ∧ a.name = b.name := by
  constructor
  · intro h
    have hadot := Identifier.dot_not_mem_of_check (check_name ha)
    have hbdot := Identifier.dot_not_mem_of_check (check_name hb)
    rw [← String.append_empty (s := a.name)] at hadot
    rw [← String.append_empty (s := b.name)] at hbdot
    simpa using scope_eq_of_qualified_eq hadot hbdot (by simpa using h)
  · rintro ⟨hscope, hname⟩
    rw [qualifiedName, qualifiedName, hscope, hname]

end TypeHeader

end AccessorGen
