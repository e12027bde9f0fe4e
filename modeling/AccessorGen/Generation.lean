import AccessorGen.AccessorName
import AccessorGen.Directive.Arguments
import AccessorGen.Directive.Definition
import AccessorGen.Event

set_option autoImplicit false

/-!
# Generation

From a snapshot to its generated units.  Each annotated field has an outcome of
its own: it is skipped with an error, or it gets an accessor, with a warning if
its name had to be made up.  The accessors are then grouped by type, and each
group is one unit.
-/

namespace AccessorGen

/-- What comes of an annotated field. -/
inductive Outcome where
  /-- There is no accessor, and the diagnostic says why. -/
  | skipped (reason : Diagnostic)
  /-- There is an accessor, perhaps with a warning about its name. -/
  | resolved (accessor : Accessor) (shape : String) (warning : Option Diagnostic)
  deriving DecidableEq, Repr, Inhabited

namespace Outcome

/-- The accessor, if there is one. -/
def accessor? : Outcome → Option Accessor
  | skipped _ => none
  | resolved accessor _ _ => some accessor

/-- The diagnostics about the field. -/
def diagnostics : Outcome → List Diagnostic
  | skipped reason => [reason]
  | resolved _ _ warning => warning.toList

/-- The outcome as an event, given the route of the field. -/
def event (route : String) : Outcome → Event
  | skipped reason => .fieldSkipped reason
  | resolved accessor shape _ => .fieldResolved route accessor shape

end Outcome

namespace Directive.Annotated

/-- What the directive asks for, unless it cannot be followed. -/
def request (a : Annotated) : Except Fault Request :=
  if a.field.container.kind.canBePartial then Request.ofLiterals a.directive.args a.field.type
  else .error (.notPartial a.field.container.text)

/-- The name of the accessor, and a warning if the field gives none. -/
def accessorName (a : Annotated) : String × Option Diagnostic :=
  match AccessorName.derive? a.field.ident with
  | some name => (name, none)
  | none =>
    (AccessorName.fallback,
      some (.ofFallback AccessorName.fallback a.field.ident a.field.location))

/-- What comes of an annotated field, given the base name of the directive and
the declared types. -/
def outcome (baseName : String) (u : Universe) (a : Annotated) : Outcome :=
  match a.request with
  | .error fault => .skipped (.ofReason baseName fault.message a.field.ident a.field.location)
  | .ok request =>
    match u.relate a.field.type request.target with
    | .error e => .skipped (.ofNoConversion e a.field.ident a.field.location)
    | .ok conversion =>
      let (name, warning) := a.accessorName
      .resolved (.ofField name a.field request.target request.effectivePolicy conversion)
        request.shape warning

end Directive.Annotated

/-- All that is generated for a snapshot. -/
structure Generation where
  /-- The unit that declares the directive, if it is asked for. -/
  definition : Option SourceUnit
  /-- The units with accessors. -/
  sources : List AccessorUnit
  diagnostics : List Diagnostic
  deriving DecidableEq, Repr, Inhabited

namespace Generation

/-- Some field gets no accessor. -/
def hasErrors (g : Generation) : Bool := g.diagnostics.any (·.isError)

/-- All units, the definition first. -/
def units (g : Generation) : List SourceUnit := g.definition.toList ++ g.sources.map (·.unit)

end Generation

namespace Settings

/-- The annotated fields of a snapshot. -/
def annotated (s : Settings) (snapshot : Snapshot) : List Directive.Annotated :=
  Directive.annotatedFields s.baseName snapshot.fields

/-- What comes of one field of a snapshot. -/
def outcome (s : Settings) (snapshot : Snapshot) (a : Directive.Annotated) : Outcome :=
  a.outcome s.baseName snapshot.toUniverse

/-- What comes of each annotated field. -/
def outcomes (s : Settings) (snapshot : Snapshot) : List (Field × Outcome) :=
  (s.annotated snapshot).map fun a => (a.field, s.outcome snapshot a)

/-- The accessors with the headers of the types they belong to. -/
def accessors (s : Settings) (snapshot : Snapshot) : List (TypeHeader × Accessor) :=
  (s.outcomes snapshot).filterMap fun (f, o) => o.accessor?.map ((f.container, ·))

/-- The accessors of each type. -/
def groups (s : Settings) (snapshot : Snapshot) : List AccessorGroup :=
  AccessorGroup.ofAccessors (s.accessors snapshot)

/-- All that is generated for a snapshot. -/
def generate (s : Settings) (snapshot : Snapshot) : Generation where
  definition := if s.emitsDefinition then some (Directive.definition s) else none
  sources := (s.groups snapshot).map (·.unit s)
  diagnostics := (s.outcomes snapshot).flatMap fun (_, o) => o.diagnostics

/-- What happens while a snapshot is worked on. -/
def generationEvents (s : Settings) (snapshot : Snapshot) : List Event :=
  let outcomes := s.outcomes snapshot
  let groups := s.groups snapshot
  outcomes.map (fun (f, o) => o.event f.route) ++ groups.map .groupEmitted ++
    [.generationComplete outcomes.length (s.accessors snapshot).length groups.length
      (s.generate snapshot).diagnostics.length]

end Settings

end AccessorGen
