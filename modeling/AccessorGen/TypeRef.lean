import AccessorGen.Predefined
import AccessorGen.Text.Dotted

set_option autoImplicit false

/-!
# Type references

A type as it is written: a name with type arguments, an array of some rank, or
the nullable form of a type.  Equality is structural, so the smart constructors
`generic`, `arrayOf` and `optional` bring a spelling into normal form first: a
framework name becomes its keyword, a rank is at least one, and a nullable type
is not made nullable again.
-/

namespace AccessorGen

/-- A reference to a type. -/
inductive TypeRef where
  /-- A named type with its type arguments. -/
  | named (path : String) (args : List TypeRef)
  /-- An array type; a rank of `n` has `n - 1` commas between its brackets. -/
  | array (element : TypeRef) (rank : UInt8)
  /-- The nullable form of a type. -/
  | nullable (inner : TypeRef)
  deriving Repr, Inhabited

namespace TypeRef

/-- Induction with a hypothesis for every type argument. -/
@[elab_as_elim, induction_eliminator]
theorem induct {motive : TypeRef → Prop}
    (named : ∀ path args, (∀ a ∈ args, motive a) → motive (.named path args))
    (array : ∀ element rank, motive element → motive (.array element rank))
    (nullable : ∀ inner, motive inner → motive (.nullable inner)) :
    ∀ t, motive t
  | .named path args => named path args fun a _ => induct named array nullable a
  | .array element rank => array element rank (induct named array nullable element)
  | .nullable inner => nullable inner (induct named array nullable inner)

mutual

/-- Structural equality is decidable. -/
def decEq : (t u : TypeRef) → Decidable (t = u)
  | .named p as, .named q bs =>
    if h : p = q then
      match decEqList as bs with
      | .isTrue h' => .isTrue (by rw [h, h'])
      | .isFalse h' => .isFalse fun e => h' (TypeRef.named.inj e).2
    else .isFalse fun e => h (TypeRef.named.inj e).1
  | .array s m, .array t n =>
    if h : m = n then
      match decEq s t with
      | .isTrue h' => .isTrue (by rw [h, h'])
      | .isFalse h' => .isFalse fun e => h' (TypeRef.array.inj e).1
    else .isFalse fun e => h (TypeRef.array.inj e).2
  | .nullable s, .nullable t =>
    match decEq s t with
    | .isTrue h => .isTrue (by rw [h])
    | .isFalse h => .isFalse fun e => h (TypeRef.nullable.inj e)
  | .named _ _, .array _ _ => .isFalse nofun
  | .named _ _, .nullable _ => .isFalse nofun
  | .array _ _, .named _ _ => .isFalse nofun
  | .array _ _, .nullable _ => .isFalse nofun
  | .nullable _, .named _ _ => .isFalse nofun
  | .nullable _, .array _ _ => .isFalse nofun

/-- Equality of argument lists is decidable. -/
def decEqList : (ts us : List TypeRef) → Decidable (ts = us)
  | [], [] => .isTrue rfl
  | t :: ts, u :: us =>
    match decEq t u with
    | .isTrue h =>
      match decEqList ts us with
      | .isTrue h' => .isTrue (by rw [h, h'])
      | .isFalse h' => .isFalse fun e => h' (List.cons.inj e).2
    | .isFalse h => .isFalse fun e => h (List.cons.inj e).1
  | [], _ :: _ => .isFalse nofun
  | _ :: _, [] => .isFalse nofun

end

instance : DecidableEq TypeRef := decEq

/-! ## Normal spelling -/

/-- The normal spelling of a path: no white space around it, no `global::` in
front of it, and the keyword in place of a framework name. -/
def normalPath (path : String) : String :=
  let bare := String.ofList (Text.dropGlobal (Text.trimChars path.toList))
  match Predefined.ofName? bare with
  | some p => p.keyword
  | none => bare

/-- The named type with a path in normal spelling. -/
def generic (path : String) (args : List TypeRef) : TypeRef := .named (normalPath path) args

/-- The type of that name without arguments. -/
def ofPath (path : String) : TypeRef := generic path []

/-- The predefined type, by its keyword. -/
def ofPredefined (p : Predefined) : TypeRef := .named p.keyword []

/-- The array type whose rank is at least one. -/
def arrayOf (element : TypeRef) (rank : UInt8) : TypeRef :=
  .array element (if rank = 0 then 1 else rank)

/-- The nullable form of a type, which is the type itself if it is nullable. -/
def optional : TypeRef → TypeRef
  | .nullable inner => .nullable inner
  | t => .nullable t

/-- The predefined type that the reference names. -/
def predefined? : TypeRef → Option Predefined
  | .named path [] => Predefined.ofName? path
  | _ => none

/-- The reference names the type of all objects. -/
def isObject (t : TypeRef) : Bool := t.predefined? == some .object

/-- The reference names a type that converts as numbers do. -/
def isArithmetic (t : TypeRef) : Bool := t.predefined?.any (·.isArithmetic)

/-! ## Written form -/

/-- The brackets of an array type. -/
def rankText (rank : UInt8) : String :=
  "[" ++ String.ofList (List.replicate (rank.toNat - 1) ',') ++ "]"

mutual

/-- The reference as written in source text. -/
def text : TypeRef → String
  | .named path [] => path
  | .named path (arg :: args) =>
    path ++ "<" ++ ", ".intercalate (text arg :: texts args) ++ ">"
  | .array element rank => text element ++ rankText rank
  | .nullable inner => text inner ++ "?"

/-- The written forms of a list of arguments. -/
def texts : List TypeRef → List String
  | [] => []
  | arg :: args => text arg :: texts args

end

theorem texts_eq_map (args : List TypeRef) : texts args = args.map text := by
  induction args with
  | nil => rfl
  | cons arg args ih => simp [texts, ih]

@[simp] theorem optional_nullable (t : TypeRef) : optional (.nullable t) = .nullable t := rfl

@[simp] theorem optional_optional (t : TypeRef) : optional (optional t) = optional t := by
  cases t <;> rfl

@[simp] theorem predefined?_ofPredefined (p : Predefined) :
    (ofPredefined p).predefined? = some p := by
  simp [ofPredefined, predefined?]

end TypeRef

end AccessorGen
