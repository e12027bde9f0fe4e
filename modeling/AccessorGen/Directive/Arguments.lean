import AccessorGen.AccessPolicy
import AccessorGen.Field
import AccessorGen.Settings

set_option autoImplicit false

/-!
# Directives

A field is annotated if one of its attributes is the directive, written with or
without a namespace and with or without the ending of the class name.  The first
such attribute counts.

The arguments of a directive are told apart by what they are, not by names: a
type, a policy and a truth value, each of which may be missing.  The accepted
combinations are listed as shapes.  A truth value asks for a setter, except
beside a policy, which settles that already.
-/

namespace AccessorGen.Directive

/-! ## Annotated fields -/

/-- A field with the directive on it. -/
structure Annotated where
  field : Field
  directive : Attribute
  deriving DecidableEq, Repr, Inhabited

/-- The attribute is the directive of that base name. -/
def isNamedBy (baseName : String) (a : Attribute) : Bool :=
  a.simpleName == baseName ||
    Text.dropEnding? Settings.classEnding a.simpleName.toList == some baseName.toList

/-- The first directive on a field. -/
def find? (baseName : String) (f : Field) : Option Attribute :=
  f.attributes.find? (isNamedBy baseName)

/-- The field with its directive, if it has one. -/
def annotated? (baseName : String) (f : Field) : Option Annotated :=
  (find? baseName f).map (⟨f, ·⟩)

/-- The annotated fields, in order. -/
def annotatedFields (baseName : String) (fields : List Field) : List Annotated :=
  fields.filterMap (annotated? baseName)

/-! ## Arguments -/

/-- What an argument is. -/
inductive ArgumentKind where
  | type
  | policy
  | bool
  | otherEnum
  deriving DecidableEq, Repr, Inhabited

/-- The kind as it is named in messages. -/
def ArgumentKind.text : ArgumentKind → String
  | type => "type"
  | policy => "policy"
  | bool => "bool"
  | otherEnum => "enum"

/-- An argument that has been recognized. -/
inductive Argument where
  | type (type : TypeRef)
  | policy (policy : AccessPolicy)
  | bool (value : Bool)
  /-- A member of an enum that is not the one of policies. -/
  | otherEnum
  deriving DecidableEq, Repr, Inhabited

/-- What the argument is. -/
def Argument.kind : Argument → ArgumentKind
  | type _ => .type
  | policy _ => .policy
  | bool _ => .bool
  | otherEnum => .otherEnum

/-- A combination of arguments. -/
structure Shape where
  name : String
  signature : List ArgumentKind
  /-- The truth value asks for a setter. -/
  boolIsSetter : Bool
  deriving DecidableEq, Repr, Inhabited

/-- The accepted combinations. -/
def shapes : List Shape :=
  [⟨"default", [], false⟩,
   ⟨"setter", [.bool], true⟩,
   ⟨"type", [.type], false⟩,
   ⟨"type_setter", [.type, .bool], true⟩,
   ⟨"policy", [.policy], false⟩,
   ⟨"policy_bool", [.policy, .bool], false⟩,
   ⟨"type_policy", [.type, .policy], false⟩,
   ⟨"type_policy_bool", [.type, .policy, .bool], false⟩]

/-- The most arguments a directive can have. -/
def maxArguments : Nat := 3

/-- The name of the enum of policies in generated text. -/
def policyEnum : String := "AXS"

/-- The names that the enum of policies can be written with. -/
def policyEnums : List String := [policyEnum, "AccessPolicy"]

/-- Why a directive cannot be followed. -/
inductive Fault where
  | tooManyArguments (count : Nat)
  | unrecognizedShape (kinds : List ArgumentKind)
  | unknownPolicy (enumName member : String)
  /-- The container's declaration cannot be split into parts. -/
  | notPartial (container : String)
  deriving DecidableEq, Repr, Inhabited

/-- What is wrong with the directive. -/
def Fault.message : Fault → String
  | tooManyArguments count =>
    toString count ++ " arguments given, at most " ++ toString maxArguments ++ " are supported"
  | unrecognizedShape kinds =>
    "argument kinds (" ++ ", ".intercalate (kinds.map (·.text)) ++ ") match no supported shape"
  | unknownPolicy enumName member => "'" ++ member ++ "' is not a member of " ++ enumName
  | notPartial container => "containing type " ++ container ++ " cannot be declared partial"

/-- What a directive asks for. -/
structure Request where
  target : TypeRef
  policy : AccessPolicy
  includesSetter : Bool
  /-- The name of the shape that the arguments have. -/
  shape : String
  deriving DecidableEq, Repr, Inhabited

/-- The policy with the setter that the directive asks for. -/
def Request.effectivePolicy (r : Request) : AccessPolicy :=
  if r.includesSetter then r.policy.withSetter else r.policy

/-- The policy that a member of the policy enum means; a name may be
qualified. -/
def policy? : EnumMember → Option AccessPolicy
  | .byName name =>
    AccessPolicy.ofName? (String.ofList (Text.trimChars (Text.lastSegment name.toList)))
  | .byValue value => AccessPolicy.ofFlag? value.toInt

/-- Recognizes an argument. -/
def Argument.ofLiteral : Literal → Except Fault Argument
  | .type t => .ok (.type t)
  | .bool b => .ok (.bool b)
  | .enum l =>
    if policyEnums.contains l.simpleName then
      match policy? l.member with
      | some p => .ok (.policy p)
      | none => .error (.unknownPolicy l.enumName l.member.text)
    else .ok .otherEnum

/-- The first accepted shape of those kinds. -/
def shape? (kinds : List ArgumentKind) : Option Shape :=
  shapes.find? (·.signature == kinds)

/-- The request with what one more argument of a shape says. -/
def Request.apply (shape : Shape) (r : Request) : Argument → Request
  | .type t => { r with target := t }
  | .policy p => { r with policy := p }
  | .bool b => if shape.boolIsSetter then { r with includesSetter := b } else r
  | .otherEnum => r

/-- What a directive with those arguments asks for on a field of the declared
type. -/
def Request.ofLiterals (literals : List Literal) (declared : TypeRef) : Except Fault Request :=
  if maxArguments < literals.length then .error (.tooManyArguments literals.length)
  else do
    let args ← literals.mapM Argument.ofLiteral
    match shape? (args.map (·.kind)) with
    | none => .error (.unrecognizedShape (args.map (·.kind)))
    | some shape => .ok (args.foldl (Request.apply shape) ⟨declared, .publicGet, false, shape.name⟩)

end AccessorGen.Directive
