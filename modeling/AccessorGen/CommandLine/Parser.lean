import AccessorGen.CommandLine.Options

set_option autoImplicit false

/-!
# Command line: reading arguments

Arguments are read from left to right.  An option's value is the rest of its
argument or the next argument that does not look like an option; that one is
checked only when the next option comes or the level ends, so an error further
on may come first.  After a lone `--` nothing is an option any more.
-/

namespace AccessorGen.CommandLine

/-- The options found so far at one level. -/
structure Scan where
  /-- The options that have been accepted, with their values. -/
  given : List (Switch × String)
  /-- An option that still waits for its value, or whose value has not been
  checked yet. -/
  pending : Option (Switch × Option String)
  deriving DecidableEq, Repr, Inhabited

namespace Scan

/-- No options. -/
def empty : Scan := ⟨[], none⟩

/-- The value of an option. -/
def value? (s : Scan) (switch : Switch) : Option String := s.given.lookup switch

/-- The last option still waits for its value. -/
def isWaiting (s : Scan) : Bool :=
  match s.pending with
  | some (_, none) => true
  | _ => false

/-- Accepts an option with its value. -/
def accept (s : Scan) (switch : Switch) : Option String → Except UsageError Scan
  | none => .error .invalidValue
  | some value =>
    if (s.value? switch).isSome then .error .repeatedOption
    else if switch.accepts value then .ok { s with given := s.given ++ [(switch, value)] }
    else .error .invalidValue

/-- Accepts the option that is still open. -/
def settle (s : Scan) : Except UsageError Scan :=
  match s.pending with
  | none => .ok s
  | some (switch, value) => accept { s with pending := none } switch value

/-- An option with its value in the same argument. -/
def attach (s : Scan) (switch : Switch) (value : String) : Except UsageError Scan := do
  let s ← s.settle
  s.accept switch (some value)

/-- An option whose value is the next argument. -/
def await (s : Scan) (switch : Switch) : Except UsageError Scan := do
  let s ← s.settle
  .ok { s with pending := some (switch, none) }

/-- An option without a value. -/
def raise (s : Scan) (switch : Switch) : Except UsageError Scan := do
  let s ← s.settle
  match switch with
  | .help => .error .helpRequested
  | .version => .error .versionRequested
  | _ => s.accept switch (some "true")

/-- The value that the last option waits for. -/
def fill (s : Scan) (value : String) : Scan :=
  { s with pending := s.pending.map fun (switch, _) => (switch, some value) }

/-- An argument of two dashes and a name, perhaps with a value. -/
def long (level : Level) (s : Scan) (body : List Char) : Except UsageError Scan :=
  let name := String.ofList (body.takeWhile (· != '='))
  let value := match body.dropWhile (· != '=') with
    | _ :: value => some (String.ofList value)
    | [] => none
  match level.ofLongName? name, value with
  | none, _ => .error .unknownArgument
  | some switch, none => if switch.takesValue then s.await switch else s.raise switch
  | some switch, some value =>
    if switch.takesValue then s.attach switch value else .error .unexpectedValue

/-- An argument of one dash and letters, the last of which may have a value. -/
def short (level : Level) (s : Scan) : List Char → Except UsageError Scan
  | [] => .ok s
  | letter :: rest =>
    match level.ofLetter? letter with
    | none => .error .unknownArgument
    | some switch =>
      if switch.takesValue then
        match rest with
        | [] => s.await switch
        | '=' :: value => s.attach switch (String.ofList value)
        | value => s.attach switch (String.ofList value)
      else do
        let s ← s.raise switch
        short level s rest

end Scan

/-- What kind of argument a word is. -/
inductive Word where
  /-- A lone `--`. -/
  | separator
  | long (body : List Char)
  | short (letters : List Char)
  | plain
  deriving DecidableEq, Repr, Inhabited

/-- The kind of argument that a word is; a lone dash is a plain word. -/
def Word.ofArgument (argument : String) : Word :=
  match argument.toList with
  | ['-', '-'] => .separator
  | '-' :: '-' :: body => .long body
  | '-' :: letter :: letters => .short (letter :: letters)
  | _ => .plain

/-- The error of a word that stands for nothing at a level: before the command
it is taken for one. -/
def stray (level : Level) (separated : Bool) (argument : String) : UsageError :=
  match level with
  | .top =>
    if separated && (level.turn? argument).isSome then .unknownArgument else .unknownCommand
  | _ => .unknownArgument

/-- Help can be asked for about one command. -/
def helpAbout : List String → UsageError
  | [] => .helpRequested
  | [word] => if (Level.top.turn? word).isSome then .helpRequested else .unknownCommand
  | _ => .unknownCommand

/-- Reads the arguments of a level up to the command, if there is one; gives the
options and the command with the arguments after it. -/
def read (level : Level) (s : Scan) (separated : Bool) :
    List String → Except UsageError (Scan × Option (Level × List String))
  | [] => .ok (s, none)
  | argument :: rest =>
    if separated then .error (stray level true argument)
    else
      match s.isWaiting, level.turn? argument with
      | false, some (.command next) => .ok (s, some (next, rest))
      | false, some .help => .error (helpAbout rest)
      | waiting, _ =>
        match Word.ofArgument argument with
        | .separator => read level s true rest
        | .long body => do
          let s ← s.long level body
          read level s false rest
        | .short letters => do
          let s ← s.short level letters
          read level s false rest
        | .plain =>
          if waiting then read level (s.fill argument) false rest
          else .error (stray level false argument)

/-! ## Values and where they come from -/

/-- Where a value comes from, the weakest first. -/
inductive Origin where
  | unset
  | environment
  | argument
  deriving DecidableEq, Repr, Inhabited

/-- How much the origin counts. -/
def Origin.rank : Origin → Nat
  | unset => 0
  | environment => 1
  | argument => 2

/-- A value with its origin. -/
structure Setting (α : Type) where
  value : α
  origin : Origin
  deriving DecidableEq, Repr, Inhabited

/-- The value after the command, unless the one before it has a stronger
origin. -/
def Setting.merge {α : Type} (before after : Setting α) : Setting α :=
  if after.origin.rank < before.origin.rank then before else after

/-- The options that can stand at both levels. -/
structure Shared where
  config : Setting (Option String)
  format : Setting Format
  verbose : Setting Bool
  deriving DecidableEq, Repr, Inhabited

/-- The shared options, those after the command before those in front of it. -/
def Shared.merge (before after : Shared) : Shared :=
  ⟨before.config.merge after.config, before.format.merge after.format,
    before.verbose.merge after.verbose⟩

/-- The shared options of a level, with the path of the configuration that the
environment names. -/
def Scan.shared (s : Scan) (environment : Option String) : Except UsageError Shared := do
  let config ← match s.value? .config, environment with
    | some path, _ => .ok ⟨some path, .argument⟩
    | none, some path =>
      if Switch.config.accepts path then .ok ⟨some path, .environment⟩
      else .error UsageError.invalidValue
    | none, none => .ok ⟨none, .unset⟩
  let format := match (s.value? .format).bind Format.ofName? with
    | some format => ⟨format, .argument⟩
    | none => ⟨.text, .unset⟩
  let verbose := match s.value? .verbose with
    | some _ => ⟨true, .argument⟩
    | none => ⟨false, .unset⟩
  .ok ⟨config, format, verbose⟩

/-- An option that the command cannot do without. -/
def Scan.require (s : Scan) (switch : Switch) : Except UsageError String :=
  match s.value? switch with
  | some value => .ok value
  | none => .error .missingOption

/-- The command of a level, made of its options. -/
def Scan.command (s : Scan) : Level → Except UsageError Command
  | .top => .error .missingCommand
  | .generate => do
    let snapshot ← s.require .snapshot
    let out ← s.require .out
    .ok (.generate snapshot out)
  | .check => do
    let snapshot ← s.require .snapshot
    .ok (.check snapshot)

/-- The error of a command line without a command. -/
def withoutCommand (s : Scan) (shared : Shared) : UsageError :=
  if s.given.isEmpty && shared.config.origin == .unset then .nothingGiven else .missingCommand

/-- Reads a command line, given the path of the configuration that the
environment names. -/
def parse (environment : Option String) (arguments : List String) :
    Except UsageError Invocation := do
  let (outer, next) ← read .top .empty false arguments
  match next with
  | none =>
    let outer ← outer.settle
    let shared ← outer.shared environment
    .error (withoutCommand outer shared)
  | some (level, rest) =>
    let (inner, _) ← read level .empty false rest
    let inner ← inner.settle
    let after ← inner.shared environment
    let command ← inner.command level
    let outer ← outer.settle
    let before ← outer.shared environment
    let shared := before.merge after
    .ok ⟨shared.config.value, shared.format.value, shared.verbose.value, command⟩

end AccessorGen.CommandLine
