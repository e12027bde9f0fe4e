set_option autoImplicit false

/-!
# Nesting

Sequences in which some elements open something and others close it: lines with
braces, characters with brackets.  The depth behind a part of a sequence is a
sum of weights, and a sequence is nested if it ends at the depth where it began
and never gets below it.  What is asked of a single element may depend on the
depth it stands at.
-/

namespace AccessorGen.Nesting

variable {α : Type} {weight : α → Int} {fits : Int → α → Prop} {l m : List α}

/-- How much more is opened than closed: what opens weighs one, and what closes
weighs minus one. -/
def depth (weight : α → Int) : List α → Int
  | [] => 0
  | a :: l => weight a + depth weight l

@[simp] theorem depth_nil (weight : α → Int) : depth weight [] = 0 := rfl

@[simp] theorem depth_cons (weight : α → Int) (a : α) (l : List α) :
    depth weight (a :: l) = weight a + depth weight l := rfl

@[simp] theorem depth_append (weight : α → Int) (l m : List α) :
    depth weight (l ++ m) = depth weight l + depth weight m := by
  induction l with
  | nil => exact (Int.zero_add _).symm
  | cons a l ih => rw [List.cons_append, depth_cons, depth_cons, ih, Int.add_assoc]

/-- An element of two sequences one behind the other stands in one of them. -/
theorem split_append {before after : List α} {a : α} (h : l ++ m = before ++ a :: after) :
    (∃ rest, l = before ++ a :: rest) ∨ ∃ rest, before = l ++ rest ∧ m = rest ++ a :: after := by
  rcases List.append_eq_append_iff.mp h with ⟨rest, hbefore, hm⟩ | ⟨rest, hl, hafter⟩
  · exact .inr ⟨rest, hbefore, hm⟩
  · cases rest with
    | nil => exact .inr ⟨[], by simp [hl], by simpa using hafter.symm⟩
    | cons b rest =>
      obtain ⟨rfl, -⟩ := List.cons.inj hafter
      exact .inl ⟨rest, hl⟩

/-- Two sequences that meet the same element at their ends are the same, unless
one of them goes on behind the end of the other. -/
theorem append_cons_inj_of_ne {xs ys us vs : List α} {a : α} (h : xs ++ a :: us = ys ++ a :: vs)
    (hxs : ∀ rest, xs ≠ ys ++ a :: rest) (hys : ∀ rest, ys ≠ xs ++ a :: rest) :
    xs = ys ∧ us = vs := by
  rcases split_append h with ⟨rest, hrest⟩ | ⟨rest, hrest, hends⟩
  · exact absurd hrest (hxs rest)
  · cases rest with
    | nil => exact ⟨by simp [hrest], (List.cons.inj hends).2⟩
    | cons b rest =>
      obtain ⟨rfl, -⟩ := List.cons.inj hends
      exact absurd hrest (hys rest)

/-- Whatever is opened gets closed and nothing else does, and each element fits
the depth in front of it. -/
structure IsNested (weight : α → Int) (fits : Int → α → Prop) (l : List α) : Prop where
  closed : depth weight l = 0
  fits : ∀ before a after, l = before ++ a :: after →
    0 ≤ depth weight before ∧ fits (depth weight before) a

namespace IsNested

theorem nil : IsNested weight fits [] where
  closed := rfl
  fits before a after h := by simp at h

theorem append (hl : IsNested weight fits l) (hm : IsNested weight fits m) :
    IsNested weight fits (l ++ m) where
  closed := by rw [depth_append, hl.closed, hm.closed, Int.add_zero]
  fits before a after h := by
    rcases split_append h with ⟨rest, hl'⟩ | ⟨rest, rfl, hm'⟩
    · exact hl.fits before a rest hl'
    · rw [depth_append, hl.closed, Int.zero_add]
      exact hm.fits rest a after hm'

/-- A sequence that opens and closes nothing is nested. -/
theorem of_flat (h : ∀ a ∈ l, weight a = 0 ∧ fits 0 a) : IsNested weight fits l := by
  induction l with
  | nil => exact nil
  | cons a l ih =>
    obtain ⟨hweight, hfits⟩ := h a List.mem_cons_self
    have hrest := ih fun b hb => h b (List.mem_cons_of_mem a hb)
    have hsingle : IsNested weight fits [a] := by
      refine ⟨by simp [hweight], ?_⟩
      intro before b after heq
      cases before with
      | nil =>
        obtain ⟨rfl, -⟩ := List.cons.inj heq
        exact ⟨Int.le_refl 0, hfits⟩
      | cons c before => simp at heq
    exact hsingle.append hrest

/-- Only depths that are reached matter. -/
theorem mono {fits' : Int → α → Prop} (h : IsNested weight fits l)
    (himp : ∀ d a, 0 ≤ d → fits d a → fits' d a) : IsNested weight fits' l where
  closed := h.closed
  fits before a after heq :=
    let ⟨hnonneg, hfits⟩ := h.fits before a after heq
    ⟨hnonneg, himp _ a hnonneg hfits⟩

/-- Around a nested sequence something can be opened and closed. -/
theorem wrap {a b : α} (ha : weight a = 1) (hb : weight b = -1) (hfirst : fits 0 a)
    (hlast : fits 1 b) (hl : IsNested weight (fun d => fits (1 + d)) l) :
    IsNested weight fits (a :: (l ++ [b])) where
  closed := by simp [ha, hb, hl.closed]
  fits before c after h := by
    cases before with
    | nil =>
      obtain ⟨rfl, -⟩ := List.cons.inj h
      exact ⟨Int.le_refl 0, hfirst⟩
    | cons c' before =>
      obtain ⟨rfl, hrest⟩ := List.cons.inj h
      rw [depth_cons, ha]
      rcases split_append hrest with ⟨rest, hl'⟩ | ⟨rest, rfl, hb'⟩
      · obtain ⟨hnonneg, hfits⟩ := hl.fits before c rest hl'
        exact ⟨by omega, hfits⟩
      · obtain ⟨rfl, hc⟩ := List.append_eq_singleton_iff.mp hb'.symm |>.resolve_right (by simp)
        obtain ⟨rfl, -⟩ := List.cons.inj hc
        rw [List.append_nil, hl.closed]
        exact ⟨by decide, hlast⟩

end IsNested

end AccessorGen.Nesting
