import AccessorGen.Proofs.Naming
import AccessorGen.Proofs.Validity

set_option autoImplicit false

/-!
# Violations

Validation is exact: it accepts a snapshot exactly if every name in it is an
identifier, every namespace is one, every operator has its own type on just one
side, every attribute has a name, and no slot is taken twice.  It loses nothing
either: what it reports about any other snapshot has one message for each single
violation, also where routes coincide.

Each check reports at most one message for each thing it looks at, so the
messages are counted by the things that fail it.
-/

namespace AccessorGen

/-! ## What is checked -/

/-- The names in a header that have to be identifiers. -/
def TypeHeader.names (h : TypeHeader) : List String := h.name :: h.params

/-- Just one of the two sides of the operator is the type that declares it. -/
def TypeDecl.isOneSided (d : TypeDecl) (op : ConversionOperator) : Bool :=
  d.header.isNamedBy op.parameter != d.header.isNamedBy op.returns

namespace Snapshot

variable (s : Snapshot)

/-- The headers of the declared types and of the types around fields. -/
def headers : List TypeHeader := s.types.map (·.header) ++ s.fields.map (·.container)

/-- The names that have to be identifiers. -/
def names : List String := s.headers.flatMap TypeHeader.names ++ s.fields.map (·.ident)

/-- The namespaces. -/
def scopes : List String := s.headers.flatMap (·.scope.toList)

/-- The operators, each with the declaration it is written in. -/
def declaredOperators : List (TypeDecl × ConversionOperator) :=
  s.types.flatMap fun d => d.operators.map (d, ·)

/-- The attributes of fields. -/
def attributes : List Attribute := s.fields.flatMap (·.attributes)

/-- The slots that are taken, by one declaration or by several. -/
def slots : List (String × Nat) := s.types.map TypeDecl.slot

/-- Nothing in the snapshot violates a rule. -/
structure IsSound : Prop where
  names : ∀ name ∈ s.names, Identifier.check name = .ok ()
  scopes : ∀ scope ∈ s.scopes, checkScope scope = .ok ()
  operators : ∀ d ∈ s.types, ∀ op ∈ d.operators, d.isOneSided op = true
  attributes : ∀ a ∈ s.attributes, a.simpleName ≠ ""
  slots : s.slots.Nodup

/-- The number of single violations: names and namespaces that are none,
operators with their own type on both sides or on neither, attributes without a
name, and slots that are taken more than once. -/
def violations : Nat :=
  (s.names.countP fun name => !(Identifier.check name).isOk) +
    (s.scopes.countP fun scope => !(checkScope scope).isOk) +
    (s.declaredOperators.countP fun (d, op) => !d.isOneSided op) +
    (s.attributes.countP fun a => a.simpleName == "") +
    (s.slots.toFinset.filter fun k => 2 ≤ s.slots.count k).card

end Snapshot

/-! ## One message for each violation -/

theorem isOk_iff {ε : Type} {result : Except ε Unit} : result.isOk = true ↔ result = .ok () := by
  cases result with
  | ok u => simp [Except.isOk, Except.toBool]
  | error fault => simp [Except.isOk, Except.toBool]

theorem length_failure {ε : Type} (message : ε → String) (result : Except ε Unit) :
    (failure message result).length = if result.isOk then 0 else 1 := by
  cases result with
  | ok u => rfl
  | error fault => rfl

/-- A check of each member of a list has as many messages as members fail it. -/
theorem length_flatMap_failure {α ε : Type} (message : ε → String) (check : α → Except ε Unit)
    (l : List α) :
    (l.flatMap fun a => failure message (check a)).length = l.countP fun a => !(check a).isOk := by
  induction l with
  | nil => rfl
  | cons a rest ih =>
    rw [List.flatMap_cons, List.length_append, ih, List.countP_cons, Nat.add_comm, length_failure]
    cases (check a).isOk <;> rfl

theorem TypeHeader.length_issues (h : TypeHeader) :
    h.issues.length =
      (h.names.countP fun name => !(Identifier.check name).isOk) +
        h.scope.toList.countP fun scope => !(checkScope scope).isOk := by
  have hnames := length_flatMap_failure NameFault.message Identifier.check h.names
  have hscope := length_flatMap_failure ScopeFault.message checkScope h.scope.toList
  rw [names, List.flatMap_cons, List.length_append] at hnames
  simp only [issues, List.length_append, hscope, ← hnames, names]
  omega

/-- An operator can be declared exactly if its own type is on one side alone. -/
theorem TypeDecl.checkOperator_eq_ok_iff (d : TypeDecl) (op : ConversionOperator) :
    d.checkOperator op = .ok () ↔ d.isOneSided op = true := by
  unfold checkOperator isOneSided
  by_cases hsame : op.parameter = op.returns
  · simp [hsame]
  · cases d.header.isNamedBy op.parameter <;> cases d.header.isNamedBy op.returns <;>
      simp [hsame]

theorem TypeDecl.length_issues (d : TypeDecl) :
    d.issues.length = d.header.issues.length + d.operators.countP fun op => !d.isOneSided op := by
  have hcheck : ∀ op, (d.checkOperator op).isOk = d.isOneSided op := by
    intro op
    rw [Bool.eq_iff_iff, isOk_iff, checkOperator_eq_ok_iff]
  simp only [issues, operatorIssues, List.length_append, length_flatMap_failure, hcheck]

theorem Field.length_issues (f : Field) :
    f.issues.length =
      (if (Identifier.check f.ident).isOk then 0 else 1) + f.container.issues.length +
        f.attributes.countP (·.simpleName == "") := by
  have hattributes : (f.attributes.flatMap Attribute.issues).length =
      f.attributes.countP (·.simpleName == "") := by
    induction f.attributes with
    | nil => rfl
    | cons a rest ih =>
      rw [List.flatMap_cons, List.length_append, ih, List.countP_cons, Nat.add_comm]
      by_cases hname : a.simpleName = "" <;> simp [Attribute.issues, hname]
  rw [issues, List.length_append, List.length_append, length_failure, hattributes]

namespace Snapshot

/-- What the declarations of a list violate, each in itself. -/
theorem sum_length_issues_types (types : List TypeDecl) :
    (types.map fun d => d.issues.length).sum =
      ((types.map (·.header)).map fun h => h.issues.length).sum +
        (types.flatMap fun d => d.operators.map (d, ·)).countP fun (d, op) => !d.isOneSided op := by
  induction types with
  | nil => rfl
  | cons d rest ih =>
    rw [List.map_cons, List.sum_cons, ih, d.length_issues]
    simp only [List.map_cons, List.sum_cons, List.flatMap_cons, List.countP_append,
      List.countP_map, Function.comp_def]
    omega

/-- What the fields of a list violate, each in itself. -/
theorem sum_length_issues_fields (fields : List Field) :
    (fields.map fun f => f.issues.length).sum =
      ((fields.map (·.container)).map fun h => h.issues.length).sum +
        ((fields.map (·.ident)).countP fun name => !(Identifier.check name).isOk) +
        (fields.flatMap (·.attributes)).countP fun a => a.simpleName == "" := by
  induction fields with
  | nil => rfl
  | cons f rest ih =>
    rw [List.map_cons, List.sum_cons, ih, f.length_issues]
    simp only [List.map_cons, List.sum_cons, List.flatMap_cons, List.countP_append,
      List.countP_cons]
    cases (Identifier.check f.ident).isOk <;> simp only [Bool.not_true, Bool.not_false,
      Bool.false_eq_true, ↓reduceIte] <;> omega

/-- What the headers of a list violate. -/
theorem sum_length_issues_headers (headers : List TypeHeader) :
    (headers.map fun h => h.issues.length).sum =
      ((headers.flatMap TypeHeader.names).countP fun name => !(Identifier.check name).isOk) +
        (headers.flatMap (·.scope.toList)).countP fun scope => !(checkScope scope).isOk := by
  induction headers with
  | nil => rfl
  | cons h rest ih =>
    rw [List.map_cons, List.sum_cons, ih, h.length_issues]
    simp only [List.flatMap_cons, List.countP_append]
    omega

/-- There is one message for each slot that is taken more than once. -/
theorem length_repeatedSlots_types (s : Snapshot) :
    (repeatedSlots [] s.types).length =
      (s.slots.toFinset.filter fun k => 2 ≤ s.slots.count k).card := by
  rw [length_repeatedSlots, takenAgain, slots]
  congr 1
  refine Finset.filter_congr fun k _ => ?_
  simp

/-- There are as many issues as violations. -/
theorem count_issues_eq_violations (s : Snapshot) : s.issues.count = s.violations := by
  have hheaders := sum_length_issues_headers s.headers
  rw [headers, List.map_append, List.sum_append] at hheaders
  rw [count_issues, sum_length_issues_types, sum_length_issues_fields,
    length_repeatedSlots_types, violations, names, List.countP_append, scopes,
    declaredOperators, attributes]
  unfold headers
  omega

theorem violations_eq_zero_iff (s : Snapshot) : s.violations = 0 ↔ s.IsSound := by
  have hnames : (s.names.countP fun name => !(Identifier.check name).isOk) = 0 ↔
      ∀ name ∈ s.names, Identifier.check name = .ok () := by
    simp [List.countP_eq_zero, isOk_iff]
  have hscopes : (s.scopes.countP fun scope => !(checkScope scope).isOk) = 0 ↔
      ∀ scope ∈ s.scopes, checkScope scope = .ok () := by
    simp [List.countP_eq_zero, isOk_iff]
  have hoperators : (s.declaredOperators.countP fun (d, op) => !d.isOneSided op) = 0 ↔
      ∀ d ∈ s.types, ∀ op ∈ d.operators, d.isOneSided op = true := by
    simp only [List.countP_eq_zero, declaredOperators, List.mem_flatMap, List.mem_map]
    constructor
    · intro h d hd op hop
      simpa using h (d, op) ⟨d, hd, op, hop, rfl⟩
    · rintro h _ ⟨d, hd, op, hop, rfl⟩
      simp [h d hd op hop]
  have hattributes : (s.attributes.countP fun a => a.simpleName == "") = 0 ↔
      ∀ a ∈ s.attributes, a.simpleName ≠ "" := by
    simp [List.countP_eq_zero]
  have hslots : (s.slots.toFinset.filter fun k => 2 ≤ s.slots.count k).card = 0 ↔
      s.slots.Nodup := by
    rw [← length_repeatedSlots_types, List.length_eq_zero_iff, repeatedSlots_eq_nil_iff, slots]
  simp only [violations, Nat.add_eq_zero_iff, hnames, hscopes, hoperators, hattributes, hslots]
  constructor
  · rintro ⟨⟨⟨⟨hn, hsc⟩, ho⟩, ha⟩, hsl⟩
    exact ⟨hn, hsc, ho, ha, hsl⟩
  · rintro ⟨hn, hsc, ho, ha, hsl⟩
    exact ⟨⟨⟨⟨hn, hsc⟩, ho⟩, ha⟩, hsl⟩

/-- Validation accepts a snapshot exactly if there is no violation in it, and it
reports each of them otherwise. -/
theorem validate_exact (s : Snapshot) :
    (s.validate = .ok () ↔ s.IsSound) ∧
      ∀ tree, s.validate = .error tree → tree.count = s.violations := by
  constructor
  · rw [validate, IssueTree.result_eq_ok_iff, count_issues_eq_violations, violations_eq_zero_iff]
  · intro tree htree
    rw [← IssueTree.eq_of_result_eq_error htree, count_issues_eq_violations]

end Snapshot

/-! ## A depot with faults on shared routes -/

namespace Depot

/-- Neither side of the operator is the crate. -/
def crate : TypeDecl :=
  ⟨⟨some "Depot", "Crate", .classType, ["T"]⟩, [], none,
    [⟨.implicit, .named "int" [], .named "double" []⟩]⟩

/-- The field and its attribute have no proper names. -/
def label : Field :=
  ⟨"2nd", .named "string" [], ⟨some "Depot", "Crate", .classType, ["T"]⟩,
    [⟨"global::", []⟩], none⟩

/-- The field is declared in a type that cannot be. -/
def stray : Field :=
  ⟨"weight", .named "int" [], ⟨some "Depot..Yard", "", .structType, ["int", "1"]⟩, [], none⟩

/-- The crate is declared three times, and the label twice. -/
def snapshot : Snapshot := ⟨[crate, crate, crate], [label, stray, label]⟩

/-- There are three faults in the names around the stray field, two in each
label, one in each declaration of the crate, and one for the crate's slot. -/
theorem count_depot :
    snapshot.validate = .error snapshot.issues ∧ snapshot.issues.count = 11 := by
  have hinvalid : snapshot.validate = .error snapshot.issues := by rfl
  have hviolations : snapshot.violations = 11 := by decide +kernel
  exact ⟨hinvalid, (snapshot.validate_exact.2 _ hinvalid).trans hviolations⟩

end Depot

end AccessorGen
