import AccessorGen.Ancestry

set_option autoImplicit false

/-!
# Conversions

Which conversions lead from one type to another.  Operators declared in either
of the two types count, and so do the conversions the language has without
them: to and from `object`, between numbers, between enums and numbers, and
along base types.  Both reach through nullable types.  An accessor of another
type than its field needs a conversion in one of the two directions.
-/

namespace AccessorGen

/-- The conversions there are in one direction. -/
structure Conversions where
  «implicit» : Bool
  «explicit» : Bool
  deriving DecidableEq, Repr, Inhabited

namespace Conversions

/-- No conversion. -/
def none : Conversions := ⟨false, false⟩

/-- An implicit conversion and no explicit one. -/
def onlyImplicit : Conversions := ⟨true, false⟩

/-- An explicit conversion and no implicit one. -/
def onlyExplicit : Conversions := ⟨false, true⟩

/-- There is a conversion. -/
def exist (c : Conversions) : Bool := c.implicit || c.explicit

/-- The conversions that are in either of two sets. -/
def union (c d : Conversions) : Conversions :=
  ⟨c.implicit || d.implicit, c.explicit || d.explicit⟩

/-- What remains when a nullable value is converted to a type that is not
nullable: any conversion becomes an explicit one. -/
def narrowed (c : Conversions) : Conversions := if c.exist then onlyExplicit else none

/-- The conversions that a list of operators provides. -/
def ofOperators (operators : List ConversionOperator) : Conversions :=
  ⟨operators.any (·.kind == .implicit), operators.any (·.kind == .explicit)⟩

@[simp] theorem exist_none : none.exist = false := rfl
@[simp] theorem exist_onlyImplicit : onlyImplicit.exist = true := rfl
@[simp] theorem exist_onlyExplicit : onlyExplicit.exist = true := rfl

@[simp] theorem exist_union (c d : Conversions) : (c.union d).exist = (c.exist || d.exist) := by
  cases c; cases d; simp only [union, exist]; grind

@[simp] theorem exist_narrowed (c : Conversions) : c.narrowed.exist = c.exist := by
  unfold narrowed
  split <;> simp_all

end Conversions

/-- How an accessor's type relates to its field's type. -/
inductive Conversion where
  /-- The types are the same. -/
  | identity
  /-- The types differ, and at least one direction can be converted. -/
  | cast (forward backward : Conversions)
  deriving DecidableEq, Repr, Inhabited

namespace Conversion

/-- Values have to be cast. -/
def needsCast : Conversion → Bool
  | identity => false
  | cast _ _ => true

end Conversion

/-- Neither type can be converted into the other. -/
structure NoConversion where
  source : TypeRef
  target : TypeRef
  deriving DecidableEq, Repr, Inhabited

/-- The types are named as they were written. -/
def NoConversion.message (e : NoConversion) : String :=
  "No implicit or explicit conversion found from '" ++ e.source.text ++ "' to '" ++
    e.target.text ++ "'"

namespace Universe

/-! ## Declared operators -/

/-- The operators declared in either type that take exactly the canonical type
`source` and return exactly the canonical type `target`. -/
def operators (u : Universe) (source target : TypeRef) : List ConversionOperator :=
  let decls := (u.find? source).toList ++ (u.find? target).toList
  (decls.flatMap (·.operators)).filter fun op =>
    u.canonical op.parameter == source && u.canonical op.returns == target

/-- The conversions that declared operators provide between canonical types. -/
def declared (u : Universe) (source target : TypeRef) : Conversions :=
  .ofOperators (u.operators source target)

/-- The conversions that declared operators provide when they reach through
nullable types. -/
def lifted (u : Universe) : (source target : TypeRef) → Conversions
  | .nullable a, .nullable b => u.declared a b
  | a, .nullable b => u.declared a b
  | .nullable a, b => (u.declared a b).narrowed
  | a, b => u.declared a b

/-- The conversions that operators declared for just these types provide. -/
def byOperators (u : Universe) (source target : TypeRef) : Conversions :=
  u.declared (u.canonical source) (u.canonical target)

/-! ## Conversions of the language -/

/-- The reference denotes an enum. -/
def isEnum (u : Universe) (t : TypeRef) : Bool := (u.find? t).any (·.isEnum)

/-- One type is an enum and the other one of numbers. -/
def isEnumAndNumber (u : Universe) (a b : TypeRef) : Bool :=
  (u.isEnum a && b.isArithmetic) || (a.isArithmetic && u.isEnum b)

/-- The conversion between two predefined types of numbers. -/
def arithmetic? (source target : TypeRef) : Option Conversions :=
  match source.predefined?, target.predefined? with
  | some p, some q =>
    if p.isArithmetic && q.isArithmetic then
      some (if p.widensTo q then .onlyImplicit else .onlyExplicit)
    else none
  | _, _ => none

/-- The conversion along base types: implicit to an ancestor, explicit from
one. -/
def alongBases (u : Universe) (source target : TypeRef) : Conversions :=
  if u.hasAncestor source target then .onlyImplicit
  else if u.hasAncestor target source then .onlyExplicit
  else .none

/-- The conversion between two different types, neither of them nullable and
neither of them `object`. -/
def plain (u : Universe) (source target : TypeRef) : Conversions :=
  match arithmetic? source target with
  | some c => c
  | none => if u.isEnumAndNumber source target then .onlyExplicit else u.alongBases source target

/-- The conversion between two types, neither of them nullable. -/
def unwrapped (u : Universe) (source target : TypeRef) : Conversions :=
  if source = target ∨ target.isObject then .onlyImplicit
  else if source.isObject then .onlyExplicit
  else u.plain source target

/-- The conversion that the language has between canonical types without
operators.  In a canonical type a nullable type holds one that is not, so that
one layer is all there is to take off. -/
def builtIn (u : Universe) (source target : TypeRef) : Conversions :=
  if source = target ∨ target.isObject then .onlyImplicit
  else if source.isObject then .onlyExplicit
  else match source, target with
    | .nullable a, .nullable b => u.unwrapped a b
    | a, .nullable b => u.unwrapped a b
    | .nullable a, b => (u.unwrapped a b).narrowed
    | a, b => u.plain a b

/-! ## Conversions between references -/

/-- The conversions from one type to another. -/
def conversions (u : Universe) (source target : TypeRef) : Conversions :=
  let a := u.canonical source
  let b := u.canonical target
  (u.lifted a b).union (u.builtIn a b)

/-- How an accessor of type `target` relates to a field of type `source`. -/
def relate (u : Universe) (source target : TypeRef) : Except NoConversion Conversion :=
  if u.canonical source = u.canonical target then .ok .identity
  else
    let forward := u.conversions source target
    let backward := u.conversions target source
    if forward.exist || backward.exist then .ok (.cast forward backward)
    else .error ⟨source, target⟩

end Universe

end AccessorGen
