import AccessorGen.Json.Basic

set_option autoImplicit false

/-!
# Issue trees

Issues found while validating, filed under the route to where they were found.
A node holds the messages for its own route and a child for every longer route,
in increasing order of the next step.  Trees are merged route by route, and
nothing that was filed gets lost or is filed twice.
-/

namespace AccessorGen

/-- The issues at and below a route, without a condition on the children. -/
inductive IssueNode where
  | mk (messages : List String) (children : List (String × IssueNode))
  deriving Repr, Inhabited

namespace IssueNode

/-- The messages filed here. -/
def messages : IssueNode → List String
  | mk messages _ => messages

/-- What is filed under longer routes. -/
def children : IssueNode → List (String × IssueNode)
  | mk _ children => children

/-- No issues. -/
def empty : IssueNode := mk [] []

mutual

/-- At every depth the children stand in increasing order. -/
def Ordered : IssueNode → Prop
  | mk _ children => (children.map Prod.fst).Pairwise (· < ·) ∧ AllOrdered children

/-- Every child is ordered. -/
def AllOrdered : List (String × IssueNode) → Prop
  | [] => True
  | (_, child) :: rest => Ordered child ∧ AllOrdered rest

end

/-- Changes the child under a step of the route; one that is missing starts out
empty and is put in its place. -/
def update (step : String) (change : IssueNode → IssueNode) :
    List (String × IssueNode) → List (String × IssueNode)
  | [] => [(step, change empty)]
  | (key, child) :: rest =>
    if step = key then (key, change child) :: rest
    else if step < key then (step, change empty) :: (key, child) :: rest
    else (key, child) :: update step change rest

mutual

/-- The issues of two nodes at one route, the messages of the first in front. -/
def merge (a : IssueNode) : IssueNode → IssueNode
  | mk messages children => mk (a.messages ++ messages) (mergeAll a.children children)

/-- Merges children one after the other into those already there. -/
def mergeAll (found : List (String × IssueNode)) :
    List (String × IssueNode) → List (String × IssueNode)
  | [] => found
  | (step, child) :: rest => mergeAll (update step (fun old => merge old child) found) rest

end

mutual

/-- No messages at any depth. -/
def isEmpty : IssueNode → Bool
  | mk messages children => messages.isEmpty && allEmpty children

/-- No messages in any child. -/
def allEmpty : List (String × IssueNode) → Bool
  | [] => true
  | (_, child) :: rest => isEmpty child && allEmpty rest

end

mutual

/-- The number of messages at all depths. -/
def count : IssueNode → Nat
  | mk messages children => messages.length + countAll children

/-- The number of messages in all children. -/
def countAll : List (String × IssueNode) → Nat
  | [] => 0
  | (_, child) :: rest => count child + countAll rest

end

/-- A route with one more step; the dot that joins them needs a route before
it. -/
def extend (route step : String) : String :=
  if route = "" then step else route ++ "." ++ step

mutual

/-- Every message with its route, a node's own before its children's. -/
def entries (route : String) : IssueNode → List (String × String)
  | mk messages children => messages.map (route, ·) ++ allEntries route children

/-- Every message of the children with its route. -/
def allEntries (route : String) : List (String × IssueNode) → List (String × String)
  | [] => []
  | (step, child) :: rest => entries (extend route step) child ++ allEntries route rest

end

mutual

/-- The node as a JSON value. -/
def toJson : IssueNode → Json
  | mk messages children =>
    .obj (Json.memberUnlessEmpty "messages" .str messages ++
      match children with
      | [] => []
      | child :: rest => [("children", .obj (members (child :: rest)))])

/-- The children as the members of an object. -/
def members : List (String × IssueNode) → List (String × Json)
  | [] => []
  | (step, child) :: rest => (step, toJson child) :: members rest

end

/-! ## Order of the children -/

theorem ordered_empty : empty.Ordered := ⟨List.Pairwise.nil, trivial⟩

theorem mem_keys_update {step key : String} {change : IssueNode → IssueNode}
    {children : List (String × IssueNode)}
    (h : key ∈ (update step change children).map Prod.fst) :
    key = step ∨ key ∈ children.map Prod.fst := by
  induction children with
  | nil => exact .inl (by simpa [update] using h)
  | cons head rest ih =>
    obtain ⟨k, child⟩ := head
    unfold update at h
    split at h
    · exact .inr (by simpa using h)
    · split at h
      · rcases List.mem_cons.mp h with h | h
        · exact .inl h
        · exact .inr h
      · rcases List.mem_cons.mp h with h | h
        · exact .inr (by simp [h])
        · rcases ih h with h | h
          · exact .inl h
          · exact .inr (by simp [List.mem_map.mp h])

theorem lt_of_not_lt {a b : String} (hne : a ≠ b) (hlt : ¬ a < b) : b < a :=
  String.not_le.mp fun hle => hne (String.le_antisymm hle (String.not_lt.mp hlt))

/-- Changing a child keeps the keys increasing. -/
theorem pairwise_update {step : String} {change : IssueNode → IssueNode}
    {children : List (String × IssueNode)} (h : (children.map Prod.fst).Pairwise (· < ·)) :
    ((update step change children).map Prod.fst).Pairwise (· < ·) := by
  induction children with
  | nil => simp [update]
  | cons head rest ih =>
    obtain ⟨key, child⟩ := head
    obtain ⟨hhead, hrest⟩ := List.pairwise_cons.mp h
    unfold update
    split
    · exact List.pairwise_cons.mpr ⟨hhead, hrest⟩
    · split
      · rename_i hlt
        refine List.pairwise_cons.mpr ⟨?_, List.pairwise_cons.mpr ⟨hhead, hrest⟩⟩
        intro other hother
        rcases List.mem_cons.mp hother with rfl | hother
        · exact hlt
        · exact String.lt_trans hlt (hhead other hother)
      · rename_i hne hlt
        refine List.pairwise_cons.mpr ⟨?_, ih hrest⟩
        intro other hother
        rcases mem_keys_update hother with rfl | hother
        · exact lt_of_not_lt hne hlt
        · exact hhead other hother

/-- Changing a child keeps every child ordered if the change does. -/
theorem allOrdered_update {step : String} {change : IssueNode → IssueNode}
    {children : List (String × IssueNode)} (h : AllOrdered children)
    (hchange : ∀ n : IssueNode, n.Ordered → (change n).Ordered) :
    AllOrdered (update step change children) := by
  induction children with
  | nil => exact ⟨hchange _ ordered_empty, trivial⟩
  | cons head rest ih =>
    obtain ⟨key, child⟩ := head
    obtain ⟨hchild, hrest⟩ := h
    unfold update
    split
    · exact ⟨hchange _ hchild, hrest⟩
    · split
      · exact ⟨hchange _ ordered_empty, hchild, hrest⟩
      · exact ⟨hchild, ih hrest⟩

mutual

/-- Merging keeps the order. -/
theorem ordered_merge : ∀ {a b : IssueNode}, a.Ordered → b.Ordered → (merge a b).Ordered
  | mk _ _, mk _ _, ha, hb => ordered_mergeAll ha.1 ha.2 hb.2

/-- Merging children keeps the order. -/
theorem ordered_mergeAll : ∀ {found children : List (String × IssueNode)},
    (found.map Prod.fst).Pairwise (· < ·) → AllOrdered found → AllOrdered children →
    ((mergeAll found children).map Prod.fst).Pairwise (· < ·) ∧
      AllOrdered (mergeAll found children)
  | _, [], hp, ha, _ => ⟨hp, ha⟩
  | _, (_, _) :: _, hp, ha, hc => by
    rw [mergeAll]
    exact ordered_mergeAll (pairwise_update hp)
      (allOrdered_update ha fun _ hn => ordered_merge hn hc.1) hc.2

end

end IssueNode

/-- Issues filed under routes. -/
structure IssueTree where
  root : IssueNode
  ordered : root.Ordered

namespace IssueTree

/-- No issues. -/
def empty : IssueTree := ⟨.empty, IssueNode.ordered_empty⟩

instance : Inhabited IssueTree := ⟨empty⟩

/-- The messages filed under the empty route. -/
def ofMessages (messages : List String) : IssueTree :=
  ⟨.mk messages [], List.Pairwise.nil, trivial⟩

/-- Files one more message under the empty route. -/
def add (t : IssueTree) (message : String) : IssueTree :=
  ⟨.mk (t.root.messages ++ [message]) t.root.children, by
    cases h : t.root with
    | mk messages children =>
      have := t.ordered
      rw [h] at this
      exact this⟩

/-- The issues of both trees. -/
def merge (a b : IssueTree) : IssueTree :=
  ⟨a.root.merge b.root, IssueNode.ordered_merge a.ordered b.ordered⟩

/-- The tree has no messages. -/
def isEmpty (t : IssueTree) : Bool := t.root.isEmpty

/-- Changes what is filed under a route of one step. -/
def updateAt (t : IssueTree) (step : String) (change : IssueNode → IssueNode)
    (h : ∀ n : IssueNode, n.Ordered → (change n).Ordered) : IssueTree :=
  ⟨.mk t.root.messages (IssueNode.update step change t.root.children), by
    have ht := t.ordered
    cases hr : t.root with
    | mk messages children =>
      rw [hr] at ht
      exact ⟨IssueNode.pairwise_update ht.1, IssueNode.allOrdered_update ht.2 h⟩⟩

/-- Merges a tree under a route of one step; a tree without messages leaves no
trace. -/
def mergeAt (t : IssueTree) (step : String) (sub : IssueTree) : IssueTree :=
  if sub.isEmpty then t
  else t.updateAt step (fun old => old.merge sub.root)
    fun _ hn => IssueNode.ordered_merge hn sub.ordered

/-- Puts a tree under a route of one step in place of what is there. -/
def replaceAt (t : IssueTree) (step : String) (sub : IssueTree) : IssueTree :=
  t.updateAt step (fun _ => sub.root) fun _ _ => sub.ordered

/-- The tree itself as what went wrong, if anything did. -/
def result (t : IssueTree) : Except IssueTree Unit := if t.isEmpty then .ok () else .error t

/-- The number of messages. -/
def count (t : IssueTree) : Nat := t.root.count

/-- Every message with its route, the steps of which are joined by dots. -/
def entries (t : IssueTree) : List (String × String) := t.root.entries ""

/-- A message behind its route. -/
def entryText : String × String → String
  | (route, message) => if route = "" then message else route ++ ": " ++ message

/-- The messages with their routes, one entry a line. -/
def text (t : IssueTree) : String := "\n".intercalate (t.entries.map entryText)

/-- The tree as a JSON value. -/
def toJson (t : IssueTree) : Json := t.root.toJson

end IssueTree

end AccessorGen
