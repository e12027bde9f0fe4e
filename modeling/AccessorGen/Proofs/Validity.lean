import AccessorGen.Validation
import Mathlib.Algebra.GroupWithZero.Nat
import Mathlib.Data.Finset.Card
import Mathlib.Data.List.Nodup

set_option autoImplicit false

/-!
# Validity

What it means that a snapshot has no issues.  Filing issues loses none and
invents none, so a tree has as many messages as the checks that fed it found.
Hence a snapshot is valid exactly if no declaration and no field has an issue
of its own and no slot is taken twice.
-/

namespace AccessorGen

/-! ## Counting issues -/

namespace IssueNode

mutual

theorem isEmpty_iff_count_eq_zero : ∀ n : IssueNode, n.isEmpty = true ↔ n.count = 0
  | mk messages children => by
    simp [isEmpty, count, allEmpty_iff_countAll_eq_zero children]

theorem allEmpty_iff_countAll_eq_zero :
    ∀ children : List (String × IssueNode), allEmpty children = true ↔ countAll children = 0
  | [] => by simp [allEmpty, countAll]
  | (_, child) :: rest => by
    simp [allEmpty, countAll, isEmpty_iff_count_eq_zero child, allEmpty_iff_countAll_eq_zero rest]

end

/-- A change that files `k` messages more under one child does so for the whole
list, whether the child was there before or not. -/
theorem countAll_update {step : String} {change : IssueNode → IssueNode} {k : Nat}
    (hchange : ∀ n : IssueNode, (change n).count = n.count + k)
    (children : List (String × IssueNode)) :
    countAll (update step change children) = countAll children + k := by
  have hempty : (change empty).count = k := by
    rw [hchange]
    simp [empty, count, countAll]
  induction children with
  | nil => simp [update, countAll, hempty]
  | cons head rest ih =>
    obtain ⟨key, child⟩ := head
    unfold update
    split
    · simp only [countAll, hchange]
      omega
    · split
      · simp only [countAll, hempty]
        omega
      · simp only [countAll, ih]
        omega

mutual

theorem count_merge : ∀ a b : IssueNode, (merge a b).count = a.count + b.count
  | mk ma ca, mk mb cb => by
    have h := countAll_mergeAll ca cb
    simp only [merge, messages, children, count, List.length_append, h]
    omega

theorem countAll_mergeAll : ∀ found children : List (String × IssueNode),
    countAll (mergeAll found children) = countAll found + countAll children
  | _, [] => by simp [mergeAll, countAll]
  | found, (step, child) :: rest => by
    rw [mergeAll, countAll_mergeAll _ rest, countAll_update fun n => count_merge n child]
    simp only [countAll]
    omega

end

end IssueNode

namespace IssueTree

@[simp] theorem count_empty : empty.count = 0 := rfl

@[simp] theorem count_ofMessages (messages : List String) :
    (ofMessages messages).count = messages.length := by
  simp [count, ofMessages, IssueNode.count, IssueNode.countAll]

theorem isEmpty_iff_count_eq_zero (t : IssueTree) : t.isEmpty = true ↔ t.count = 0 :=
  IssueNode.isEmpty_iff_count_eq_zero t.root

/-- Nothing went wrong exactly if there are no messages. -/
theorem result_eq_ok_iff (t : IssueTree) : t.result = .ok () ↔ t.count = 0 := by
  rw [← isEmpty_iff_count_eq_zero, result]
  split
  · rename_i hempty
    simp [hempty]
  · rename_i hempty
    simp [hempty]

theorem eq_of_result_eq_error {t tree : IssueTree} (h : t.result = .error tree) : t = tree := by
  unfold result at h
  split at h
  · exact absurd h nofun
  · exact Except.error.inj h

/-- Filing a tree under a route adds its messages to those already there. -/
theorem count_mergeAt (t sub : IssueTree) (step : String) :
    (t.mergeAt step sub).count = t.count + sub.count := by
  unfold mergeAt
  split
  · rename_i hsub
    rw [(isEmpty_iff_count_eq_zero sub).mp hsub, Nat.add_zero]
  · have hupdate : IssueNode.countAll (IssueNode.update step (fun old => old.merge sub.root)
        t.root.children) = IssueNode.countAll t.root.children + sub.root.count :=
      IssueNode.countAll_update (fun n => IssueNode.count_merge n sub.root) _
    have hroot : t.root.count = t.root.messages.length + IssueNode.countAll t.root.children := by
      cases t.root
      rfl
    simp only [count, updateAt, IssueNode.count, hupdate, hroot]
    omega

/-- Filing the findings of a list, each under a route of its own, adds up their
numbers, also where routes coincide. -/
theorem count_foldl_mergeAt {α : Type} (route : α → String) (findings : α → List String)
    (l : List α) (t : IssueTree) :
    (l.foldl (fun tree a => tree.mergeAt (route a) (ofMessages (findings a))) t).count =
      t.count + (l.map fun a => (findings a).length).sum := by
  induction l generalizing t with
  | nil => simp
  | cons a l ih =>
    rw [List.foldl_cons, ih, count_mergeAt, count_ofMessages, List.map_cons, List.sum_cons,
      Nat.add_assoc]

end IssueTree

/-! ## Repeated declarations -/

namespace Snapshot

/-- The slots that are taken for the second time within a list, given the slots
before it. -/
def takenAgain (before slots : List (String × Nat)) : Finset (String × Nat) :=
  slots.toFinset.filter fun k => before.count k ≤ 1 ∧ 2 ≤ before.count k + slots.count k

theorem mem_takenAgain_iff {before slots : List (String × Nat)} {k : String × Nat} :
    k ∈ takenAgain before slots ↔ before.count k ≤ 1 ∧ 2 ≤ before.count k + slots.count k := by
  rw [takenAgain, Finset.mem_filter, List.mem_toFinset, ← List.count_pos_iff]
  omega

/-- A slot that was taken once before is taken again by the first of the list;
any other slot is taken again in the rest, if at all. -/
theorem takenAgain_cons (before slots : List (String × Nat)) (k : String × Nat) :
    takenAgain before (k :: slots) =
      if before.count k = 1 then insert k (takenAgain (k :: before) slots)
      else takenAgain (k :: before) slots := by
  ext j
  split
  · rename_i hsecond
    rw [Finset.mem_insert, mem_takenAgain_iff, mem_takenAgain_iff]
    by_cases hj : j = k
    · simp [hj, hsecond]
      omega
    · simp [hj, Ne.symm hj]
  · rename_i hother
    rw [mem_takenAgain_iff, mem_takenAgain_iff]
    by_cases hj : j = k
    · simp [hj]
      omega
    · simp [Ne.symm hj]

/-- There is one message for each slot that is taken for the second time. -/
theorem length_repeatedSlots (before : List (String × Nat)) (l : List TypeDecl) :
    (repeatedSlots before l).length = (takenAgain before (l.map TypeDecl.slot)).card := by
  induction l generalizing before with
  | nil => rfl
  | cons d rest ih =>
    rw [List.map_cons, takenAgain_cons, repeatedSlots, List.length_append, ih]
    split
    · rename_i hsecond
      have hnew : d.slot ∉ takenAgain (d.slot :: before) (rest.map TypeDecl.slot) := by
        simp [mem_takenAgain_iff, hsecond]
      rw [Finset.card_insert_of_notMem hnew, List.length_singleton, Nat.add_comm]
    · rw [List.length_nil, Nat.zero_add]

theorem repeatedSlots_eq_nil_iff (l : List TypeDecl) :
    repeatedSlots [] l = [] ↔ (l.map TypeDecl.slot).Nodup := by
  rw [← List.length_eq_zero_iff, length_repeatedSlots, Finset.card_eq_zero,
    Finset.eq_empty_iff_forall_notMem, List.nodup_iff_count_le_one]
  refine forall_congr' fun k => ?_
  rw [mem_takenAgain_iff, List.count_nil]
  omega

/-! ## Valid snapshots -/

/-- A snapshot has as many issues as its declarations and its fields have, and
one for each slot that is taken more than once. -/
theorem count_issues (s : Snapshot) :
    s.issues.count =
      (s.types.map fun d => d.issues.length).sum + (s.fields.map fun f => f.issues.length).sum +
        (repeatedSlots [] s.types).length := by
  simp only [issues, typeIssues, fieldIssues, duplicateIssues, IssueTree.count_mergeAt,
    IssueTree.count_foldl_mergeAt, IssueTree.count_empty, IssueTree.count_ofMessages]
  omega

/-- Only a snapshot without any issue is valid. -/
theorem validate_eq_ok_iff (s : Snapshot) :
    s.validate = .ok () ↔
      (∀ d ∈ s.types, d.issues = []) ∧ (∀ f ∈ s.fields, f.issues = []) ∧
        (s.types.map TypeDecl.slot).Nodup := by
  rw [validate, IssueTree.result_eq_ok_iff, count_issues, Nat.add_eq_zero_iff,
    Nat.add_eq_zero_iff, List.length_eq_zero_iff, repeatedSlots_eq_nil_iff]
  simp [List.sum_eq_zero_iff_forall_eq_nat, and_assoc]

theorem slots_nodup {s : Snapshot} (h : s.validate = .ok ()) :
    (s.types.map TypeDecl.slot).Nodup :=
  ((validate_eq_ok_iff s).mp h).2.2

theorem issues_eq_nil_of_mem_types {s : Snapshot} (h : s.validate = .ok ()) {d : TypeDecl}
    (hd : d ∈ s.types) : d.issues = [] :=
  ((validate_eq_ok_iff s).mp h).1 d hd

theorem issues_eq_nil_of_mem_fields {s : Snapshot} (h : s.validate = .ok ()) {f : Field}
    (hf : f ∈ s.fields) : f.issues = [] :=
  ((validate_eq_ok_iff s).mp h).2.1 f hf

end Snapshot

end AccessorGen
