import AccessorGen.Text.Dotted
import Mathlib.Data.List.DropRight

set_option autoImplicit false

/-!
# Trimming

A spelling is trimmed first and loses its anchors afterwards.  Trimming leaves a
text alone exactly if no character of the class stands at either end, and
dropping anchors leaves it alone exactly if it has none.  Neither goes past a dot
or past any other character that stays, so the last segment of a name is the
same however the name is padded, anchored and qualified.
-/

namespace AccessorGen.Text

/-! ## Trimming -/

section TrimWith

variable {p : Char → Bool} {cs : List Char}

/-- Neither end of the text is a character of the class. -/
def IsTrimmed (p : Char → Bool) (cs : List Char) : Prop :=
  (∀ c ∈ cs.head?, p c = false) ∧ ∀ c ∈ cs.getLast?, p c = false

instance (p : Char → Bool) (cs : List Char) : Decidable (IsTrimmed p cs) :=
  @instDecidableAnd _ _ (Option.decidableForallMem _) (Option.decidableForallMem _)

theorem trimWith_eq_rdropWhile (p : Char → Bool) (cs : List Char) :
    trimWith p cs = (cs.dropWhile p).rdropWhile p := rfl

theorem dropWhile_eq_self_iff_head? : cs.dropWhile p = cs ↔ ∀ c ∈ cs.head?, p c = false := by
  cases cs with
  | nil => simp
  | cons c rest => simp [List.dropWhile_eq_self_iff]

theorem rdropWhile_eq_self_iff_getLast? :
    cs.rdropWhile p = cs ↔ ∀ c ∈ cs.getLast?, p c = false := by
  rw [List.rdropWhile_eq_self_iff]
  cases cs using List.reverseRecOn with
  | nil => simp
  | append_singleton rest c => simp

theorem isInfix_trimWith (p : Char → Bool) (cs : List Char) : trimWith p cs <:+: cs :=
  (List.rdropWhile_prefix p _).isInfix.trans (List.dropWhile_suffix p).isInfix

theorem trimWith_eq_self_iff : trimWith p cs = cs ↔ IsTrimmed p cs := by
  rw [trimWith_eq_rdropWhile, IsTrimmed, ← dropWhile_eq_self_iff_head?,
    ← rdropWhile_eq_self_iff_getLast?]
  constructor
  · intro h
    have hfront : cs.dropWhile p = cs := by
      refine (List.dropWhile_suffix p).eq_of_length_le ?_
      rw [← congrArg List.length h]
      exact (List.rdropWhile_prefix p _).length_le
    rw [hfront] at h
    exact ⟨hfront, h⟩
  · rintro ⟨hfront, hback⟩
    rw [hfront, hback]

theorem isTrimmed_trimWith (p : Char → Bool) (cs : List Char) : IsTrimmed p (trimWith p cs) := by
  have hback : ∀ c ∈ (trimWith p cs).getLast?, p c = false :=
    rdropWhile_eq_self_iff_getLast?.mp (List.rdropWhile_idempotent p (cs.dropWhile p))
  refine ⟨?_, hback⟩
  -- What is dropped at the back does not uncover another front.
  intro c hc
  obtain ⟨dropped, hdropped⟩ := List.rdropWhile_prefix p (cs.dropWhile p)
  have hfront : ∀ d ∈ (cs.dropWhile p).head?, p d = false :=
    dropWhile_eq_self_iff_head?.mp (List.dropWhile_idempotent p cs)
  refine hfront c ?_
  rw [← hdropped]
  exact List.mem_head?_append_of_mem_head? hc

/-- What surrounds a text is trimmed away, together with the part of the text's
front that belongs to the class, but not the end of the text. -/
theorem trimWith_pad {front back body tail : List Char} (hfront : ∀ c ∈ front, p c = true)
    (hback : ∀ c ∈ back, p c = true) (hne : tail ≠ []) (htail : ∀ c ∈ tail, p c = false) :
    trimWith p (front ++ (body ++ tail) ++ back) = body.dropWhile p ++ tail := by
  have hkept : ∀ rest, (body ++ tail ++ rest).dropWhile p = body.dropWhile p ++ tail ++ rest := by
    intro rest
    obtain ⟨c, tail', rfl⟩ := List.exists_cons_of_ne_nil hne
    have hc : ¬ p c = true := Bool.eq_false_iff.mp (htail c List.mem_cons_self)
    rw [List.append_assoc, List.dropWhile_append, List.append_assoc]
    split
    · rename_i hall
      rw [List.isEmpty_iff.mp hall, List.nil_append, List.cons_append,
        List.dropWhile_cons_of_neg hc]
    · rfl
  have hlast : ¬ p (tail.getLast hne) = true :=
    Bool.eq_false_iff.mp (htail _ (List.getLast_mem hne))
  rw [trimWith_eq_rdropWhile, List.append_assoc, List.dropWhile_append_of_pos hfront, hkept,
    List.rdropWhile, List.reverse_append, List.dropWhile_append_of_pos fun c hc =>
      hback c (List.mem_reverse.mp hc), ← List.rdropWhile, List.rdropWhile_eq_self_iff]
  intro hl
  rw [List.getLast_append_of_ne_nil hl hne]
  exact hlast

end TrimWith

/-! ## Anchors -/

/-- The anchor `global::` so many times over. -/
def anchors (n : Nat) : List Char := (List.replicate n "global::".toList).flatten

theorem anchors_succ (n : Nat) : anchors (n + 1) = "global::".toList ++ anchors n := rfl

theorem dot_not_mem_anchors (n : Nat) : '.' ∉ anchors n := by
  intro h
  obtain ⟨anchor, hmem, hdot⟩ := List.mem_flatten.mp h
  rw [List.eq_of_mem_replicate hmem] at hdot
  exact absurd hdot (by decide)

/-- Nothing but anchors is dropped. -/
theorem exists_eq_anchors_append (cs : List Char) : ∃ n, cs = anchors n ++ dropGlobal cs := by
  fun_induction dropGlobal cs with
  | case1 rest ih =>
    obtain ⟨n, hn⟩ := ih
    refine ⟨n + 1, ?_⟩
    rw [anchors_succ, List.append_assoc, ← hn]
    rfl
  | case2 cs h => exact ⟨0, rfl⟩

theorem dropGlobal_anchors_append (n : Nat) (cs : List Char) :
    dropGlobal (anchors n ++ cs) = dropGlobal cs := by
  induction n with
  | zero => rfl
  | succ n ih => rw [anchors_succ, List.append_assoc, dropGlobal_anchor, ih]

theorem dropGlobal_suffix (cs : List Char) : dropGlobal cs <:+ cs := by
  obtain ⟨n, hn⟩ := exists_eq_anchors_append cs
  exact ⟨anchors n, hn.symm⟩

theorem dropGlobal_eq_self_iff {cs : List Char} :
    dropGlobal cs = cs ↔ ¬ "global::".toList <+: cs := by
  refine ⟨?_, dropGlobal_of_not_anchored⟩
  rintro h ⟨rest, rfl⟩
  rw [dropGlobal_anchor] at h
  have hlength := (dropGlobal_suffix rest).length_le
  rw [h, List.length_append] at hlength
  have hanchor : "global::".toList.length = 8 := by decide
  omega

theorem not_anchored_dropGlobal (cs : List Char) : ¬ "global::".toList <+: dropGlobal cs :=
  dropGlobal_eq_self_iff.mp (dropGlobal_dropGlobal cs)

/-- Trimming and dropping anchors together leave a text alone exactly if each of
them does. -/
theorem dropGlobal_trimWith_eq_self_iff {p : Char → Bool} {cs : List Char} :
    dropGlobal (trimWith p cs) = cs ↔ IsTrimmed p cs ∧ ¬ "global::".toList <+: cs := by
  rw [← trimWith_eq_self_iff, ← dropGlobal_eq_self_iff]
  constructor
  · intro h
    have htrim : trimWith p cs = cs := by
      refine (isInfix_trimWith p cs).eq_of_length_le ?_
      rw [← congrArg List.length h]
      exact (dropGlobal_suffix _).length_le
    rw [htrim] at h
    exact ⟨htrim, h⟩
  · rintro ⟨htrim, hdrop⟩
    rw [htrim, hdrop]

/-- The same with a trimming by another class of characters at the end. -/
theorem trimWith_dropGlobal_trimWith_eq_self_iff {p q : Char → Bool} {cs : List Char} :
    trimWith q (dropGlobal (trimWith p cs)) = cs ↔
      IsTrimmed q cs ∧ IsTrimmed p cs ∧ ¬ "global::".toList <+: cs := by
  rw [← dropGlobal_trimWith_eq_self_iff, ← trimWith_eq_self_iff]
  constructor
  · intro h
    have hbare : dropGlobal (trimWith p cs) = cs := by
      refine ((dropGlobal_suffix _).isInfix.trans (isInfix_trimWith p cs)).eq_of_length_le ?_
      rw [← congrArg List.length h]
      exact (isInfix_trimWith q _).length_le
    rw [hbare] at h
    exact ⟨h, hbare⟩
  · rintro ⟨htrim, hbare⟩
    rw [hbare, htrim]

/-! ## Last segments -/

theorem ne_dot_of_mem_reverse {cs : List Char} (h : '.' ∉ cs) :
    ∀ c ∈ cs.reverse, (c != '.') = true := by
  intro c hc
  rw [bne_iff_ne]
  rintro rfl
  exact h (List.mem_reverse.mp hc)

theorem lastSegment_append_dot {xs ys : List Char} (h : '.' ∉ ys) :
    lastSegment (xs ++ '.' :: ys) = ys := by
  rw [lastSegment, List.reverse_append, List.reverse_cons, List.append_assoc,
    List.takeWhile_append_of_pos (ne_dot_of_mem_reverse h)]
  simp

theorem lastSegment_eq_self {cs : List Char} (h : '.' ∉ cs) : lastSegment cs = cs := by
  rw [lastSegment, List.takeWhile_eq_self_iff.mpr (ne_dot_of_mem_reverse h), List.reverse_reverse]

/-- Dropping anchors never goes past a dot. -/
theorem exists_dropGlobal_append_dot (xs ys : List Char) :
    ∃ zs, dropGlobal (xs ++ '.' :: ys) = zs ++ '.' :: ys := by
  obtain ⟨n, hn⟩ := exists_eq_anchors_append (xs ++ '.' :: ys)
  rcases List.append_eq_append_iff.mp hn with ⟨behind, hanchors, hrest⟩ | ⟨zs, -, hrest⟩
  · cases behind with
    | nil => exact ⟨[], hrest.symm⟩
    | cons c behind =>
      -- The dot would belong to an anchor.
      obtain ⟨rfl, -⟩ := List.cons.inj hrest
      have hdot : '.' ∈ anchors n := by
        rw [hanchors]
        exact List.mem_append_right _ List.mem_cons_self
      exact absurd hdot (dot_not_mem_anchors n)
  · exact ⟨zs, hrest⟩

end AccessorGen.Text
