import AccessorGen.Proofs.Validity

set_option autoImplicit false

/-!
# Filing

A tree of issues is determined by which nodes it has and which messages are
filed there.  Merging puts the messages of the second tree behind those of the
first, node by node, and that makes merging a monoid.  Listed with their routes,
the messages stand in the order of the routes, and none is lost or doubled.
-/

namespace AccessorGen

namespace IssueNode

/-! ## The messages of a node -/

/-- The messages of the node that some steps lead to, if there is one. -/
def messages? : List String → IssueNode → Option (List String)
  | [], n => some n.messages
  | step :: steps, n => (n.children.lookup step).bind (messages? steps)

/-- The messages filed where some steps lead to. -/
def messagesAt (steps : List String) (n : IssueNode) : List String := (messages? steps n).getD []

theorem lookup_eq_none_of_lt {step : String} {children : List (String × IssueNode)}
    (h : ∀ key ∈ children.map Prod.fst, step < key) : children.lookup step = none := by
  refine List.lookup_eq_none_iff.mpr fun p hp => ?_
  have hlt := h p.1 (List.mem_map_of_mem hp)
  exact bne_iff_ne.mpr fun heq => String.lt_irrefl step (heq ▸ hlt)

theorem lookup_cons (k key : String) (child : IssueNode) (rest : List (String × IssueNode)) :
    ((k, child) :: rest).lookup key = if key = k then some child else rest.lookup key := by
  rw [List.lookup_cons]
  by_cases hkey : key = k
  · simp [hkey]
  · have hbeq : (key == k) = false := beq_false_of_ne hkey
    rw [hbeq, if_neg hkey]

/-- Changing a child leaves the others alone. -/
theorem lookup_update {step : String} {change : IssueNode → IssueNode}
    {children : List (String × IssueNode)} (h : (children.map Prod.fst).Pairwise (· < ·))
    (key : String) :
    (update step change children).lookup key =
      if key = step then some (change ((children.lookup step).getD empty))
      else children.lookup key := by
  induction children with
  | nil => rw [update, lookup_cons, List.lookup_nil, List.lookup_nil, Option.getD_none]
  | cons head rest ih =>
    obtain ⟨k, child⟩ := head
    obtain ⟨hhead, hrest⟩ := List.pairwise_cons.mp h
    unfold update
    split
    · rename_i heq
      subst heq
      by_cases hkey : key = step <;> simp [lookup_cons, hkey]
    · rename_i hne
      split
      · rename_i hlt
        have hmissing : ((k, child) :: rest).lookup step = none := by
          refine lookup_eq_none_of_lt fun other hother => ?_
          rcases List.mem_cons.mp hother with rfl | hother
          · exact hlt
          · exact String.lt_trans hlt (hhead other hother)
        rw [hmissing, lookup_cons, Option.getD_none]
      · rw [lookup_cons, lookup_cons, lookup_cons, if_neg hne, ih hrest]
        by_cases hkey : key = step
        · rw [if_pos hkey, if_pos hkey, if_neg (hkey ▸ hne)]
        · rw [if_neg hkey, if_neg hkey]

theorem ordered_of_lookup {children : List (String × IssueNode)} {key : String} {n : IssueNode}
    (h : AllOrdered children) (hn : children.lookup key = some n) : n.Ordered := by
  induction children with
  | nil => simp at hn
  | cons head rest ih =>
    obtain ⟨k, child⟩ := head
    obtain ⟨hchild, hrest⟩ := h
    rw [lookup_cons] at hn
    split at hn
    · exact Option.some.inj hn ▸ hchild
    · exact ih hrest hn

/-! ## Merging, node by node -/

/-- An empty node takes nothing from what is merged into it. -/
theorem merge_messages?_empty (steps : List String) (n : IssueNode) :
    Option.merge (· ++ ·) (messages? steps empty) (messages? steps n) = messages? steps n := by
  cases steps with
  | nil => rfl
  | cons step steps =>
    rw [messages?, empty, children, List.lookup_nil, Option.bind_none, Option.merge_none_left]

/-- A child is merged into the one found under its step, or else into an empty
one. -/
theorem bind_lookup_update {step : String} {found : List (String × IssueNode)} {child : IssueNode}
    (hfound : (found.map Prod.fst).Pairwise (· < ·)) (hall : AllOrdered found)
    {steps : List String}
    (hmerge : ∀ old : IssueNode, old.Ordered → messages? steps (merge old child) =
      Option.merge (· ++ ·) (messages? steps old) (messages? steps child)) :
    ((update step (fun old => merge old child) found).lookup step).bind (messages? steps) =
      Option.merge (· ++ ·) ((found.lookup step).bind (messages? steps))
        (messages? steps child) := by
  rw [lookup_update hfound, if_pos rfl, Option.bind_some]
  cases hold : found.lookup step with
  | none =>
    rw [Option.getD_none, hmerge empty ordered_empty, merge_messages?_empty, Option.bind_none,
      Option.merge_none_left]
  | some old =>
    rw [Option.getD_some, hmerge old (ordered_of_lookup hall hold), Option.bind_some]

mutual

/-- Merging joins the messages of two trees node by node. -/
theorem messages?_merge : ∀ {a b : IssueNode}, a.Ordered → b.Ordered → ∀ steps : List String,
    messages? steps (merge a b) =
      Option.merge (· ++ ·) (messages? steps a) (messages? steps b)
  | mk _ _, mk _ _, _, _, [] => rfl
  | mk _ _, mk _ _, ha, hb, step :: steps =>
    bind_lookup_mergeAll ha.1 ha.2 hb.1 hb.2 step steps

/-- The same, child by child. -/
theorem bind_lookup_mergeAll : ∀ {found children : List (String × IssueNode)},
    (found.map Prod.fst).Pairwise (· < ·) → AllOrdered found →
    (children.map Prod.fst).Pairwise (· < ·) → AllOrdered children →
    ∀ (key : String) (steps : List String),
    ((mergeAll found children).lookup key).bind (messages? steps) =
      Option.merge (· ++ ·) ((found.lookup key).bind (messages? steps))
        ((children.lookup key).bind (messages? steps))
  | found, [], _, _, _, _, key, steps => by
    rw [mergeAll, List.lookup_nil, Option.bind_none, Option.merge_none_right]
  | found, (step, child) :: rest, hfound, hall, hkeys, hchildren, key, steps => by
    obtain ⟨hchild, hrest⟩ := hchildren
    obtain ⟨hhead, hkeys⟩ := List.pairwise_cons.mp hkeys
    rw [mergeAll, bind_lookup_mergeAll (pairwise_update hfound)
      (allOrdered_update hall fun _ hn => ordered_merge hn hchild) hkeys hrest, lookup_cons]
    by_cases hkey : key = step
    · -- The child is merged into the one found, and the rest has no other.
      subst hkey
      rw [bind_lookup_update hfound hall fun old hold => messages?_merge hold hchild steps,
        lookup_eq_none_of_lt hhead, if_pos rfl, Option.bind_none, Option.merge_none_right,
        Option.bind_some]
    · rw [lookup_update hfound, if_neg hkey, if_neg hkey]

end

/-! ## Trees by their nodes -/

/-- The least key of some children is among the keys of others only if theirs
begin no later. -/
theorem not_lt_of_lookup {k k' : String} {child' n : IssueNode}
    {rest' : List (String × IssueNode)}
    (h : (((k', child') :: rest').map Prod.fst).Pairwise (· < ·))
    (hn : ((k', child') :: rest').lookup k = some n) : ¬ k < k' := by
  intro hlt
  have hmissing : ((k', child') :: rest').lookup k = none := by
    refine lookup_eq_none_of_lt fun other hother => ?_
    rcases List.mem_cons.mp hother with rfl | hother
    · exact hlt
    · exact String.lt_trans hlt ((List.pairwise_cons.mp h).1 other hother)
  rw [hmissing] at hn
  exact absurd hn (by simp)

/-- Where one of two lists of children has a child, the other has one. -/
theorem exists_lookup {ca cb : List (String × IssueNode)} {key : String} {n : IssueNode}
    (h : (ca.lookup key).bind (messages? []) = (cb.lookup key).bind (messages? []))
    (hn : ca.lookup key = some n) : ∃ m, cb.lookup key = some m := by
  cases hm : cb.lookup key with
  | none => simp [hn, hm, messages?] at h
  | some m => exact ⟨m, rfl⟩

mutual

/-- Trees with the same nodes and messages are the same. -/
theorem eq_of_messages? : ∀ {a b : IssueNode}, a.Ordered → b.Ordered →
    (∀ steps : List String, messages? steps a = messages? steps b) → a = b
  | mk ma ca, mk mb cb, ha, hb, h => by
    have hmessages : ma = mb := Option.some.inj (h [])
    have hchildren : ca = cb :=
      eq_of_bind_lookup ha.1 ha.2 hb.1 hb.2 fun key steps => h (key :: steps)
    rw [hmessages, hchildren]

theorem eq_of_bind_lookup : ∀ {ca cb : List (String × IssueNode)},
    (ca.map Prod.fst).Pairwise (· < ·) → AllOrdered ca →
    (cb.map Prod.fst).Pairwise (· < ·) → AllOrdered cb →
    (∀ (key : String) (steps : List String),
      (ca.lookup key).bind (messages? steps) = (cb.lookup key).bind (messages? steps)) → ca = cb
  | [], [], _, _, _, _, _ => rfl
  | [], (k, child) :: rest, _, _, _, _, h => by
    obtain ⟨n, hn⟩ := exists_lookup (h k []).symm (by rw [lookup_cons, if_pos rfl])
    simp at hn
  | (k, child) :: rest, [], _, _, _, _, h => by
    obtain ⟨n, hn⟩ := exists_lookup (h k []) (by rw [lookup_cons, if_pos rfl])
    simp at hn
  | (k, child) :: rest, (k', child') :: rest', hk, hc, hk', hc', h => by
    obtain ⟨n, hn⟩ := exists_lookup (h k []) (by rw [lookup_cons, if_pos rfl])
    obtain ⟨n', hn'⟩ := exists_lookup (h k' []).symm (by rw [lookup_cons, if_pos rfl])
    -- Both lists are in increasing order, so that they begin with the same key.
    have hkey : k = k' := by
      by_contra hne
      exact not_lt_of_lookup hk hn' (lt_of_not_lt hne (not_lt_of_lookup hk' hn))
    subst hkey
    obtain ⟨hhead, hrest⟩ := List.pairwise_cons.mp hk
    obtain ⟨hhead', hrest'⟩ := List.pairwise_cons.mp hk'
    have hchild : child = child' := by
      refine eq_of_messages? hc.1 hc'.1 fun steps => ?_
      simpa [lookup_cons] using h k steps
    have hothers : rest = rest' := by
      refine eq_of_bind_lookup hrest hc.2 hrest' hc'.2 fun key steps => ?_
      by_cases hkey : key = k
      · rw [hkey, lookup_eq_none_of_lt hhead, lookup_eq_none_of_lt hhead']
      · simpa [lookup_cons, hkey] using h key steps
    rw [hchild, hothers]

end

theorem merge_assoc {a b c : IssueNode} (ha : a.Ordered) (hb : b.Ordered) (hc : c.Ordered) :
    merge (merge a b) c = merge a (merge b c) := by
  refine eq_of_messages? (ordered_merge (ordered_merge ha hb) hc)
    (ordered_merge ha (ordered_merge hb hc)) fun steps => ?_
  rw [messages?_merge (ordered_merge ha hb) hc, messages?_merge ha hb,
    messages?_merge ha (ordered_merge hb hc), messages?_merge hb hc]
  exact Std.Associative.assoc _ _ _

theorem empty_merge {a : IssueNode} (ha : a.Ordered) : merge empty a = a := by
  refine eq_of_messages? (ordered_merge ordered_empty ha) ha fun steps => ?_
  rw [messages?_merge ordered_empty ha, merge_messages?_empty]

theorem merge_empty (a : IssueNode) : merge a empty = a := by
  cases a with
  | mk messages children => simp [merge, empty, mergeAll, IssueNode.messages, IssueNode.children]

theorem messagesAt_merge {a b : IssueNode} (ha : a.Ordered) (hb : b.Ordered)
    (steps : List String) :
    (merge a b).messagesAt steps = a.messagesAt steps ++ b.messagesAt steps := by
  rw [messagesAt, messagesAt, messagesAt, messages?_merge ha hb]
  cases messages? steps a with
  | none => rw [Option.merge_none_left, Option.getD_none, List.nil_append]
  | some ma =>
    cases messages? steps b with
    | none => rw [Option.merge_none_right, Option.getD_none, List.append_nil]
    | some mb => rfl

/-! ## Messages with their routes -/

/-- A message with the steps to where it is filed. -/
abbrev Filed := List String × String

/-- The same message one step further down. -/
def Filed.below (step : String) (e : Filed) : Filed := (step :: e.1, e.2)

mutual

/-- Every message with the steps to it. -/
def filed : IssueNode → List Filed
  | mk messages children => messages.map (Prod.mk []) ++ allFiled children

/-- Every message of the children with the steps to it. -/
def allFiled : List (String × IssueNode) → List Filed
  | [] => []
  | (step, child) :: rest => (filed child).map (Filed.below step) ++ allFiled rest

end

mutual

/-- The entries are the filed messages, their steps joined to routes. -/
theorem entries_eq_map_filed (route : String) : ∀ n : IssueNode,
    entries route n = (filed n).map fun e => (e.1.foldl extend route, e.2)
  | mk messages children => by
    rw [entries, filed, List.map_append, List.map_map, allEntries_eq_map_allFiled route children]
    rfl

theorem allEntries_eq_map_allFiled (route : String) : ∀ children : List (String × IssueNode),
    allEntries route children = (allFiled children).map fun e => (e.1.foldl extend route, e.2)
  | [] => rfl
  | (step, child) :: rest => by
    rw [allEntries, allFiled, List.map_append, List.map_map,
      entries_eq_map_filed (extend route step) child, allEntries_eq_map_allFiled route rest]
    rfl

end

mutual

theorem length_filed : ∀ n : IssueNode, (filed n).length = n.count
  | mk messages children => by
    rw [filed, count, List.length_append, List.length_map, length_allFiled children]

theorem length_allFiled : ∀ children : List (String × IssueNode),
    (allFiled children).length = countAll children
  | [] => rfl
  | (step, child) :: rest => by
    rw [allFiled, countAll, List.length_append, List.length_map, length_filed child,
      length_allFiled rest]

end

/-! ### What merging files -/

/-- A change that files some messages more under one child does so for the whole
list, whether the child was there before or not. -/
theorem allFiled_update {step : String} {change : IssueNode → IssueNode} {extra : List Filed}
    (hchange : ∀ n : IssueNode, (filed (change n)).Perm (filed n ++ extra))
    (children : List (String × IssueNode)) :
    (allFiled (update step change children)).Perm
      (allFiled children ++ extra.map (Filed.below step)) := by
  have hempty : ((filed (change empty)).map (Filed.below step)).Perm
      (extra.map (Filed.below step)) := (hchange empty).map _
  induction children with
  | nil =>
    simp only [update, allFiled, List.append_nil, List.nil_append]
    exact hempty
  | cons head rest ih =>
    obtain ⟨key, child⟩ := head
    unfold update
    split
    · rename_i heq
      subst heq
      have hchild : ((filed (change child)).map (Filed.below step)).Perm
          ((filed child).map (Filed.below step) ++ extra.map (Filed.below step)) := by
        rw [← List.map_append]
        exact (hchange child).map _
      rw [allFiled, allFiled]
      refine (hchild.append_right _).trans ?_
      rw [List.append_assoc, List.append_assoc]
      exact List.perm_append_comm.append_left _
    · split
      · rw [allFiled]
        exact (hempty.append_right _).trans List.perm_append_comm
      · rw [allFiled, allFiled, List.append_assoc]
        exact ih.append_left _

mutual

/-- Merging files what was filed in both trees, and nothing else. -/
theorem filed_merge : ∀ a b : IssueNode, (filed (merge a b)).Perm (filed a ++ filed b)
  | mk ma ca, mk mb cb => by
    have hchildren := allFiled_mergeAll ca cb
    simp only [merge, filed, messages, children, List.map_append, List.append_assoc]
    refine List.Perm.append_left _ ?_
    refine (hchildren.append_left _).trans ?_
    rw [← List.append_assoc, ← List.append_assoc]
    exact List.perm_append_comm.append_right _

theorem allFiled_mergeAll : ∀ found children : List (String × IssueNode),
    (allFiled (mergeAll found children)).Perm (allFiled found ++ allFiled children)
  | found, [] => by rw [mergeAll, allFiled, List.append_nil]
  | found, (step, child) :: rest => by
    have hupdate : (allFiled (update step (fun old => merge old child) found)).Perm
        (allFiled found ++ (filed child).map (Filed.below step)) :=
      allFiled_update (fun old => filed_merge old child) found
    rw [mergeAll, allFiled, ← List.append_assoc]
    exact (allFiled_mergeAll _ rest).trans (hupdate.append_right _)

end

/-! ### The order of routes -/

/-- A route comes before those that go on from it, and of two routes that part
the one with the lesser step comes first. -/
def Filed.NotAfter (e f : Filed) : Prop := e.1 = f.1 ∨ List.Lex (· < ·) e.1 f.1

theorem Filed.NotAfter.below {e f : Filed} (h : e.NotAfter f) (step : String) :
    (e.below step).NotAfter (f.below step) := by
  rcases h with h | h
  · exact .inl (congrArg (List.cons step) h)
  · exact .inr (List.Lex.cons h)

theorem exists_of_mem_allFiled {children : List (String × IssueNode)} {e : Filed}
    (h : e ∈ allFiled children) :
    ∃ step ∈ children.map Prod.fst, ∃ steps, e.1 = step :: steps := by
  induction children with
  | nil => simp [allFiled] at h
  | cons head rest ih =>
    obtain ⟨step, child⟩ := head
    rcases List.mem_append.mp h with h | h
    · obtain ⟨f, -, rfl⟩ := List.mem_map.mp h
      exact ⟨step, List.mem_cons_self, f.1, rfl⟩
    · obtain ⟨other, hother, hsteps⟩ := ih h
      exact ⟨other, List.mem_cons_of_mem step hother, hsteps⟩

mutual

/-- The messages stand in the order of their routes. -/
theorem pairwise_filed : ∀ {n : IssueNode}, n.Ordered → (filed n).Pairwise Filed.NotAfter
  | mk messages children, h => by
    rw [filed, List.pairwise_append]
    refine ⟨?_, pairwise_allFiled h.1 h.2, ?_⟩
    · rw [List.pairwise_map]
      exact List.pairwise_of_forall fun _ _ => .inl rfl
    · intro e he f hf
      obtain ⟨message, -, rfl⟩ := List.mem_map.mp he
      obtain ⟨step, -, steps, hsteps⟩ := exists_of_mem_allFiled hf
      exact .inr (hsteps ▸ List.Lex.nil)

theorem pairwise_allFiled : ∀ {children : List (String × IssueNode)},
    (children.map Prod.fst).Pairwise (· < ·) → AllOrdered children →
    (allFiled children).Pairwise Filed.NotAfter
  | [], _, _ => List.Pairwise.nil
  | (step, child) :: rest, hkeys, hall => by
    obtain ⟨hhead, hrest⟩ := List.pairwise_cons.mp hkeys
    rw [allFiled, List.pairwise_append]
    refine ⟨?_, pairwise_allFiled hrest hall.2, ?_⟩
    · rw [List.pairwise_map]
      exact (pairwise_filed hall.1).imp fun h => h.below step
    · intro e he f hf
      obtain ⟨e, -, rfl⟩ := List.mem_map.mp he
      obtain ⟨other, hother, steps, hsteps⟩ := exists_of_mem_allFiled hf
      exact .inr (hsteps ▸ List.Lex.rel (hhead other hother))

end

/-! ### What is filed at a node -/

theorem filter_map_below (step key : String) (steps : List String) (es : List Filed) :
    (es.map (Filed.below step)).filter (·.1 == key :: steps) =
      if key = step then (es.filter (·.1 == steps)).map (Filed.below step) else [] := by
  rw [List.filter_map]
  split
  · rename_i hkey
    subst hkey
    refine congrArg (List.map (Filed.below key)) (List.filter_congr fun e _ => ?_)
    simp [Filed.below]
  · rename_i hkey
    have hnone : es.filter ((·.1 == key :: steps) ∘ Filed.below step) = [] := by
      refine List.filter_eq_nil_iff.mpr fun e _ => ?_
      simp [Filed.below, Ne.symm hkey]
    rw [hnone, List.map_nil]

mutual

/-- The messages filed under some steps are those of the node they lead to. -/
theorem filter_filed : ∀ {n : IssueNode}, n.Ordered → ∀ steps : List String,
    ((filed n).filter (·.1 == steps)).map Prod.snd = n.messagesAt steps
  | mk messages children, _, [] => by
    have hown : (messages.map (Prod.mk [])).filter (fun e : Filed => e.1 == []) =
        messages.map (Prod.mk []) := by
      refine List.filter_eq_self.mpr fun e he => ?_
      obtain ⟨message, -, rfl⟩ := List.mem_map.mp he
      rfl
    have hothers : (allFiled children).filter (fun e : Filed => e.1 == []) = [] := by
      refine List.filter_eq_nil_iff.mpr fun e he => ?_
      obtain ⟨step, -, steps, hsteps⟩ := exists_of_mem_allFiled he
      simp [hsteps]
    rw [filed, List.filter_append, hown, hothers, List.append_nil, List.map_map]
    exact List.map_id messages
  | mk messages children, h, step :: steps => by
    have hown : (messages.map (Prod.mk [])).filter (fun e : Filed => e.1 == step :: steps) =
        [] := by
      refine List.filter_eq_nil_iff.mpr fun e he => ?_
      obtain ⟨message, -, rfl⟩ := List.mem_map.mp he
      simp
    rw [filed, List.filter_append, hown, List.nil_append, filter_allFiled h.1 h.2 step steps]
    rfl

theorem filter_allFiled : ∀ {children : List (String × IssueNode)},
    (children.map Prod.fst).Pairwise (· < ·) → AllOrdered children →
    ∀ (key : String) (steps : List String),
    ((allFiled children).filter (·.1 == key :: steps)).map Prod.snd =
      ((children.lookup key).bind (messages? steps)).getD []
  | [], _, _, _, _ => rfl
  | (step, child) :: rest, hkeys, hall, key, steps => by
    obtain ⟨hhead, hrest⟩ := List.pairwise_cons.mp hkeys
    rw [allFiled, List.filter_append, List.map_append, filter_map_below, lookup_cons,
      filter_allFiled hrest hall.2 key steps]
    by_cases hkey : key = step
    · rw [if_pos hkey, if_pos hkey, hkey, lookup_eq_none_of_lt hhead, Option.bind_none,
        Option.getD_none, List.append_nil, List.map_map]
      exact filter_filed hall.1 steps
    · rw [if_neg hkey, if_neg hkey, List.map_nil, List.nil_append]

end

end IssueNode

namespace IssueTree

theorem eq_of_root_eq {a b : IssueTree} (h : a.root = b.root) : a = b := by
  cases a
  cases b
  cases h
  rfl

/-- The messages filed where some steps lead to. -/
def messagesAt (t : IssueTree) (steps : List String) : List String := t.root.messagesAt steps

/-- Every message with the steps to where it is filed. -/
def filed (t : IssueTree) : List IssueNode.Filed := t.root.filed

/-- A tree with nothing in it but another one under a step. -/
def under (step : String) (t : IssueTree) : IssueTree :=
  ⟨.mk [] [(step, t.root)], List.pairwise_singleton _ _, t.ordered, trivial⟩

theorem entries_eq_map_filed (t : IssueTree) :
    t.entries = t.filed.map fun e => (e.1.foldl IssueNode.extend "", e.2) :=
  t.root.entries_eq_map_filed ""

theorem length_entries (t : IssueTree) : t.entries.length = t.count := by
  rw [entries_eq_map_filed, List.length_map]
  exact t.root.length_filed

theorem entries_merge (a b : IssueTree) :
    (a.merge b).entries.Perm (a.entries ++ b.entries) := by
  simp only [entries_eq_map_filed, ← List.map_append]
  exact (a.root.filed_merge b.root).map _

/-- A tree has no messages if it has no entries, and then nothing went wrong. -/
theorem isEmpty_iffs (t : IssueTree) :
    (t.isEmpty = true ↔ t.count = 0) ∧ (t.count = 0 ↔ t.entries = []) ∧
      (t.entries = [] ↔ t.result = .ok ()) := by
  have hentries : t.count = 0 ↔ t.entries = [] := by
    rw [← length_entries, List.length_eq_zero_iff]
  refine ⟨isEmpty_iff_count_eq_zero t, hentries, ?_⟩
  rw [← hentries, result_eq_ok_iff]

/-- Merging a tree under a step merges a tree that has nothing else, unless it has
no messages. -/
theorem mergeAt_eq (t sub : IssueTree) (step : String) :
    t.mergeAt step sub = if sub.isEmpty then t else t.merge (under step sub) := by
  unfold mergeAt
  split
  · rfl
  · refine eq_of_root_eq ?_
    simp only [updateAt, merge, under]
    rw [IssueNode.merge, List.append_nil, IssueNode.mergeAll, IssueNode.mergeAll]

/-- Merging trees is associative, a tree without messages or nodes takes no part
in it, and it keeps every message of both trees at its place. -/
theorem merge_lossless (a b c : IssueTree) :
    ((a.merge b).merge c = a.merge (b.merge c) ∧ empty.merge a = a ∧ a.merge empty = a) ∧
    (∀ steps, (a.merge b).messagesAt steps = a.messagesAt steps ++ b.messagesAt steps) ∧
    (a.merge b).count = a.count + b.count ∧
    ((a.isEmpty = true ↔ a.count = 0) ∧ (a.count = 0 ↔ a.entries = []) ∧
      (a.entries = [] ↔ a.result = .ok ())) ∧
    (a.entries.length = a.count ∧
      a.entries = a.filed.map (fun e => (e.1.foldl IssueNode.extend "", e.2)) ∧
      a.filed.Pairwise IssueNode.Filed.NotAfter ∧
      ∀ steps, (a.filed.filter (·.1 == steps)).map Prod.snd = a.messagesAt steps) ∧
    (a.merge b).entries.Perm (a.entries ++ b.entries) ∧
    ∀ step, a.mergeAt step b = if b.isEmpty then a else a.merge (under step b) := by
  refine ⟨⟨?_, ?_, ?_⟩, ?_, ?_, a.isEmpty_iffs, ⟨a.length_entries, a.entries_eq_map_filed, ?_, ?_⟩,
    a.entries_merge b, a.mergeAt_eq b⟩
  · exact eq_of_root_eq (IssueNode.merge_assoc a.ordered b.ordered c.ordered)
  · exact eq_of_root_eq (IssueNode.empty_merge a.ordered)
  · exact eq_of_root_eq a.root.merge_empty
  · exact IssueNode.messagesAt_merge a.ordered b.ordered
  · exact a.root.count_merge b.root
  · exact IssueNode.pairwise_filed a.ordered
  · exact IssueNode.filter_filed a.ordered

end IssueTree

end AccessorGen
