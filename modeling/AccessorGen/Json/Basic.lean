set_option autoImplicit false

/-!
# JSON: values

A JSON value as a document holds it: members keep their order and may repeat.
Numbers are kept apart by how they can be read: `int` holds those that fit a
64-bit word, signed or unsigned, and `real` holds the spelling of all others.

Some literals are spelled correctly and still have no value: a text with half of
a surrogate pair, a number beyond every double, a container that lies too deep.
They are read as `unusable`.  A member that nobody asks for may be unusable; a
value that is asked for may not.
-/

namespace AccessorGen

/-- A JSON value. -/
inductive Json where
  | null
  | bool (value : Bool)
  | int (value : Int)
  | real (literal : String)
  | str (text : String)
  | arr (items : List Json)
  | obj (members : List (String × Json))
  | unusable
  deriving Repr, Inhabited

namespace Json

mutual

/-- The value holds no unusable literal at any depth. -/
def isUsable : Json → Bool
  | .arr items => areUsable items
  | .obj members => membersUsable members
  | .unusable => false
  | _ => true

/-- All items are usable. -/
def areUsable : List Json → Bool
  | [] => true
  | item :: items => isUsable item && areUsable items

/-- All members are usable. -/
def membersUsable : List (String × Json) → Bool
  | [] => true
  | (_, value) :: members => isUsable value && membersUsable members

end

/-- The text, if the value is one. -/
def text? : Json → Option String
  | .str s => some s
  | _ => none

/-- The truth value, if the value is one. -/
def bool? : Json → Option Bool
  | .bool b => some b
  | _ => none

/-- The items, if the value is an array. -/
def items? : Json → Option (List Json)
  | .arr items => some items
  | _ => none

/-- The natural number below the bound, if the value is one. -/
def natBelow? (bound : Nat) : Json → Option Nat
  | .int n => if 0 ≤ n ∧ n < bound then some n.toNat else none
  | _ => none

/-- The value of each item, if every item has one. -/
def list? {α : Type} (decode : Json → Option α) (j : Json) : Option (List α) :=
  j.items?.bind (·.mapM decode)

/-- Whatever stands for nothing decodes to nothing. -/
def option? {α : Type} (decode : Json → Option α) : Json → Option (Option α)
  | .null => some none
  | j => (decode j).map some

/-- An array of encoded values. -/
def ofList {α : Type} (encode : α → Json) (values : List α) : Json := .arr (values.map encode)

/-! ## Records -/

/-- The value of a member: `none` inside if it is absent, and a failure if it is
given more than once. -/
def member? (members : List (String × Json)) (name : String) : Option (Option Json) :=
  match members.filter (·.1 == name) with
  | [] => some none
  | [(_, value)] => some (some value)
  | _ => none

/-- The members of a record under the given names, in that order, with `none`
for each one that is absent.  A record is an object, whose other members are
passed over, or an array of the first members. -/
def record? (names : List String) : Json → Option (List (Option Json))
  | .obj members => names.mapM (member? members)
  | .arr items =>
    if items.length ≤ names.length then
      some (items.map some ++ List.replicate (names.length - items.length) none)
    else none
  | _ => none

/-- A value that is present is decoded; one that is absent has a default. -/
def orDefault {α : Type} (decode : Json → Option α) (default : α) : Option Json → Option α
  | some j => decode j
  | none => some default

/-- A member that is written only if it is not empty. -/
def memberUnlessEmpty {α : Type} (name : String) (encode : α → Json) :
    List α → List (String × Json)
  | [] => []
  | values => [(name, .ofList encode values)]

/-- A member that is written only if it is there. -/
def memberIfSome {α : Type} (name : String) (encode : α → Json) :
    Option α → List (String × Json)
  | none => []
  | some value => [(name, encode value)]

/-- The name and the content of an object with a single member. -/
def tagged? : Json → Option (String × Json)
  | .obj [(tag, content)] => some (tag, content)
  | _ => none

/-- A word out of a fixed choice: a text, or an object whose only member has the
word as its name and nothing as its value. -/
def word? : Json → Option String
  | .str word => some word
  | .obj [(word, .null)] => some word
  | _ => none

theorem sizeOf_lt_of_mem_items {items : List Json} {j : Json} (h : j ∈ items) :
    sizeOf j < sizeOf (Json.arr items) := by
  have := List.sizeOf_lt_of_mem h
  simp only [Json.arr.sizeOf_spec]
  omega

theorem sizeOf_lt_of_mem_members {members : List (String × Json)} {name : String} {j : Json}
    (h : (name, j) ∈ members) : sizeOf j < sizeOf (Json.obj members) := by
  have := List.sizeOf_lt_of_mem h
  simp only [Prod.mk.sizeOf_spec] at this
  simp only [Json.obj.sizeOf_spec]
  omega

theorem mem_of_member? {members : List (String × Json)} {name : String} {j : Json}
    (h : member? members name = some (some j)) : (name, j) ∈ members := by
  unfold member? at h
  split at h
  · simp at h
  · rename_i key value he
    obtain rfl : value = j := by simpa using h
    have hmem : (key, value) ∈ members.filter (·.1 == name) := by simp [he]
    obtain ⟨hm, hk⟩ := List.mem_filter.mp hmem
    simp only [beq_iff_eq] at hk
    exact hk ▸ hm
  · simp at h

theorem exists_of_mem_mapM {α β : Type} {f : α → Option β} {b : β} :
    ∀ {l : List α} {r : List β}, l.mapM f = some r → b ∈ r → ∃ a ∈ l, f a = some b := by
  intro l
  induction l with
  | nil =>
    intro r h hb
    simp at h
    simp [h] at hb
  | cons a l ih =>
    intro r h hb
    simp only [List.mapM_cons, Option.pure_def, Option.bind_eq_bind] at h
    cases hfa : f a with
    | none => simp [hfa] at h
    | some b' =>
      cases hl : l.mapM f with
      | none => simp [hfa, hl] at h
      | some r' =>
        simp only [hfa, hl, Option.bind_some, Option.some.injEq] at h
        subst h
        rcases List.mem_cons.mp hb with rfl | hb
        · exact ⟨a, by simp, hfa⟩
        · obtain ⟨x, hx, hfx⟩ := ih hl hb
          exact ⟨x, by simp [hx], hfx⟩

/-- A member of a record is smaller than the record. -/
theorem sizeOf_lt_of_record? {names : List String} {j member : Json}
    {members : List (Option Json)} (h : j.record? names = some members)
    (hm : some member ∈ members) : sizeOf member < sizeOf j := by
  unfold record? at h
  split at h
  · obtain ⟨name, _, hn⟩ := exists_of_mem_mapM h hm
    exact sizeOf_lt_of_mem_members (mem_of_member? hn)
  · split at h
    · obtain rfl := Option.some.inj h
      simp only [List.mem_append, List.mem_map, Option.some.injEq, exists_eq_right,
        List.mem_replicate, reduceCtorEq, and_false, or_false] at hm
      exact sizeOf_lt_of_mem_items hm
    · simp at h
  · simp at h

end Json

end AccessorGen
