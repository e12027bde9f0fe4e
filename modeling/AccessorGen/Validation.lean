import AccessorGen.Identifier
import AccessorGen.IssueTree
import AccessorGen.Universe

set_option autoImplicit false

/-!
# Validation

What a snapshot has to satisfy before accessors are made for it: names are
identifiers, a conversion operator has its own type on just one side, attributes
have names, and no type is declared twice.  Every violation is reported, under
the route of the declaration or field it was found in.
-/

namespace AccessorGen

/-- The message of a check that failed, if it did. -/
def failure {ε : Type} (message : ε → String) : Except ε Unit → List String
  | .ok () => []
  | .error fault => [message fault]

/-- Why an operator cannot be declared in a type. -/
inductive OperatorFault where
  /-- It converts a type to itself. -/
  | toItself (kind : OperatorKind) (parameter : TypeRef)
  /-- It has nothing to do with the type it is declared in. -/
  | foreign (op : ConversionOperator) (own : TypeRef)
  deriving DecidableEq, Repr, Inhabited

/-- What is wrong with the operator. -/
def OperatorFault.message : OperatorFault → String
  | toItself kind parameter =>
    kind.text ++ " operator converts '" ++ parameter.text ++ "' to itself"
  | foreign op own =>
    op.kind.text ++ " operator '" ++ op.parameter.text ++ "' -> '" ++ op.returns.text ++
      "' must take or return '" ++ own.text ++ "'"

namespace TypeHeader

/-- The issues of the names in a header. -/
def issues (h : TypeHeader) : List String :=
  failure NameFault.message (Identifier.check h.name) ++
    (h.scope.toList.flatMap fun scope => failure ScopeFault.message (checkScope scope)) ++
    (h.params.flatMap fun param => failure NameFault.message (Identifier.check param))

/-- The reference names the type of the header, as it may be written inside the
type's own declaration: qualified or not. -/
def isNamedBy (h : TypeHeader) (t : TypeRef) : Bool :=
  t == h.typeRef || t == .named h.name (h.params.map TypeRef.ofPath)

end TypeHeader

namespace TypeDecl

/-- The operator is one that the type can declare. -/
def checkOperator (d : TypeDecl) (op : ConversionOperator) : Except OperatorFault Unit :=
  let takesOwn := d.header.isNamedBy op.parameter
  let returnsOwn := d.header.isNamedBy op.returns
  if op.parameter = op.returns || (takesOwn && returnsOwn) then
    .error (.toItself op.kind op.parameter)
  else if !takesOwn && !returnsOwn then .error (.foreign op d.typeRef)
  else .ok ()

/-- The issues of the operators of a declaration. -/
def operatorIssues (d : TypeDecl) : List String :=
  d.operators.flatMap fun op => failure OperatorFault.message (d.checkOperator op)

/-- The issues of a declaration. -/
def issues (d : TypeDecl) : List String := d.header.issues ++ d.operatorIssues

/-- A type is declared once for each qualified name and number of parameters. -/
def slot (d : TypeDecl) : String × Nat := (d.header.qualifiedName, d.header.arity)

end TypeDecl

/-- The issues of an attribute. -/
def Attribute.issues (a : Attribute) : List String :=
  if a.simpleName = "" then ["attribute name is empty"] else []

/-- The issues of a field. -/
def Field.issues (f : Field) : List String :=
  failure NameFault.message (Identifier.check f.ident) ++ f.container.issues ++
    f.attributes.flatMap Attribute.issues

namespace Snapshot

/-- The issues of each declaration, under its header. -/
def typeIssues (s : Snapshot) : IssueTree :=
  s.types.foldl (fun tree d => tree.mergeAt d.header.text (.ofMessages d.issues)) .empty

/-- The issues of each field, under its route. -/
def fieldIssues (s : Snapshot) : IssueTree :=
  s.fields.foldl (fun tree f => tree.mergeAt f.route (.ofMessages f.issues)) .empty

/-- A message for each declaration that is the second one for its slot, given
the slots of the declarations before the list. -/
def repeatedSlots (before : List (String × Nat)) : List TypeDecl → List String
  | [] => []
  | d :: rest =>
    let repeats :=
      if before.count d.slot = 1 then
        ["type '" ++ d.header.text ++ "' is declared more than once"]
      else []
    repeats ++ repeatedSlots (d.slot :: before) rest

/-- The issues of the snapshot as a whole. -/
def duplicateIssues (s : Snapshot) : IssueTree := .ofMessages (repeatedSlots [] s.types)

/-- All issues of a snapshot. -/
def issues (s : Snapshot) : IssueTree :=
  ((IssueTree.empty.mergeAt "types" s.typeIssues).mergeAt "fields" s.fieldIssues).mergeAt
    "types" s.duplicateIssues

/-- The issues of a snapshot, unless it has none. -/
def validate (s : Snapshot) : Except IssueTree Unit := s.issues.result

/-- How an invalid snapshot is reported. -/
def invalidMessage (issues : IssueTree) : String :=
  "snapshot validation failed: " ++ issues.text

end Snapshot

end AccessorGen
