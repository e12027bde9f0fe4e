import AccessorGen.Json.Basic
import AccessorGen.TypeRef

set_option autoImplicit false

/-!
# Documents: type references

A named type without arguments is written as its path alone.  Every other
reference is an object whose only member tells what it is: `named`, `array` or
`nullable`.  Reading goes through the smart constructors, so what is read is in
normal form at every depth.
-/

namespace AccessorGen.TypeRef

mutual

/-- The reference as a JSON value. -/
def toJson : TypeRef → Json
  | .named path [] => .str path
  | .named path (arg :: args) =>
    .obj [("named", .obj [("path", .str path), ("args", .arr (toJson arg :: toJsons args))])]
  | .array element rank =>
    .obj [("array", .obj [("element", toJson element), ("rank", .int rank.toNat)])]
  | .nullable inner => .obj [("nullable", toJson inner)]

/-- The references of a list as JSON values. -/
def toJsons : List TypeRef → List Json
  | [] => []
  | t :: ts => toJson t :: toJsons ts

end

theorem toJsons_eq_map (ts : List TypeRef) : toJsons ts = ts.map toJson := by
  induction ts with
  | nil => rfl
  | cons t ts ih => simp [toJsons, ih]

/-- A rank as a JSON value. -/
def rank? (j : Json) : Option UInt8 := (j.natBelow? 256).map UInt8.ofNat

mutual

/-- The reference that a JSON value without unusable literals writes. -/
def ofUsable? (j : Json) : Option TypeRef :=
  match j with
  | .str path => some (ofPath path)
  | .obj [(tag, content)] =>
    if tag = "nullable" then (ofUsable? content).map optional
    else if tag = "array" then
      match h : content.record? ["element", "rank"] with
      | some [some element, rank] =>
        have : sizeOf element < sizeOf content := Json.sizeOf_lt_of_record? h (by simp)
        match ofUsable? element, Json.orDefault rank? 1 rank with
        | some element, some rank => some (arrayOf element rank)
        | _, _ => none
      | _ => none
    else if tag = "named" then
      match h : content.record? ["path", "args"] with
      | some [some (.str path), none] => some (generic path [])
      | some [some (.str path), some (.arr args)] =>
        have : sizeOf (Json.arr args) < sizeOf content := Json.sizeOf_lt_of_record? h (by simp)
        (ofUsables? args).map (generic path)
      | _ => none
    else none
  | _ => none
termination_by sizeOf j
decreasing_by
  · simp only [Json.obj.sizeOf_spec, List.cons.sizeOf_spec, Prod.mk.sizeOf_spec]; omega
  · simp only [Json.obj.sizeOf_spec, List.cons.sizeOf_spec, Prod.mk.sizeOf_spec]; omega
  · simp only [Json.arr.sizeOf_spec] at this
    simp only [Json.obj.sizeOf_spec, List.cons.sizeOf_spec, Prod.mk.sizeOf_spec]; omega

/-- The references that a list of JSON values writes. -/
def ofUsables? (js : List Json) : Option (List TypeRef) :=
  match js with
  | [] => some []
  | j :: js =>
    match ofUsable? j, ofUsables? js with
    | some t, some ts => some (t :: ts)
    | _, _ => none
termination_by sizeOf js

end

/-- The reference that a JSON value writes. -/
def ofJson? (j : Json) : Option TypeRef := if j.isUsable then ofUsable? j else none

end AccessorGen.TypeRef
