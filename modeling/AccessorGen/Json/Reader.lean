import AccessorGen.Json.Token

set_option autoImplicit false

/-!
# JSON: reading

A machine that is fed one token after the other.  It keeps the containers that
are open, innermost first, and what may come next.  A container that has more
than `maxDepth` containers around and including it is unusable, and so is an
object with a member whose name is no text.
-/

namespace AccessorGen.Json

/-- How deep usable containers can be nested. -/
def maxDepth : Nat := 127

/-- A container that is open, with its content so far in reverse order. -/
inductive Frame where
  | array (items : List Json)
  /-- An object, whether all names in it are texts, and the name at hand. -/
  | object (members : List (String × Json)) (sound : Bool) (name : String)
  deriving Repr, Inhabited

/-- What may come next. -/
inductive Expecting where
  | value
  | itemOrClose
  | memberOrClose
  | member
  | colon
  | commaOrClose
  | nothing (document : Json)
  deriving Repr, Inhabited

/-- A document that has been read up to some token. -/
structure Reader where
  frames : List Frame
  expecting : Expecting
  deriving Repr, Inhabited

namespace Reader

/-- Nothing has been read. -/
def start : Reader := ⟨[], .value⟩

/-- A value is complete: it goes into the innermost container. -/
def deliver (frames : List Frame) (value : Json) : Reader :=
  match frames with
  | [] => ⟨[], .nothing value⟩
  | .array items :: outer => ⟨.array (value :: items) :: outer, .commaOrClose⟩
  | .object members sound name :: outer =>
    ⟨.object ((name, value) :: members) sound name :: outer, .commaOrClose⟩

/-- The value of a container that lies at the given depth. -/
def Frame.finish (depth : Nat) : Frame → Json
  | .array items => if depth ≤ maxDepth then .arr items.reverse else .unusable
  | .object members sound _ =>
    if depth ≤ maxDepth ∧ sound then .obj members.reverse else .unusable

/-- The innermost container is closed. -/
def close : List Frame → Option Reader
  | [] => none
  | frame :: outer => some (deliver outer (Frame.finish (outer.length + 1) frame))

/-- A value begins. -/
def begin (frames : List Frame) : Token → Option Reader
  | .scalar value => some (deliver frames value)
  | .text (some s) => some (deliver frames (.str s))
  | .text none => some (deliver frames .unusable)
  | .openArray => some ⟨.array [] :: frames, .itemOrClose⟩
  | .openObject => some ⟨.object [] true "" :: frames, .memberOrClose⟩
  | _ => none

/-- The name of a member is read. -/
def nameMember (frames : List Frame) : Token → Option Reader
  | .text name =>
    match frames with
    | .object members sound _ :: outer =>
      some ⟨.object members (sound && name.isSome) (name.getD "") :: outer, .colon⟩
    | _ => none
  | _ => none

/-- A value in a container is followed by a comma or by the container's end. -/
def separate (frames : List Frame) : Token → Option Reader
  | .comma =>
    match frames with
    | .array _ :: _ => some ⟨frames, .value⟩
    | .object _ _ _ :: _ => some ⟨frames, .member⟩
    | [] => none
  | .closeArray =>
    match frames with
    | .array _ :: _ => close frames
    | _ => none
  | .closeObject =>
    match frames with
    | .object _ _ _ :: _ => close frames
    | _ => none
  | _ => none

/-- The next token is read. -/
def step (r : Reader) (token : Token) : Option Reader :=
  match r.expecting with
  | .value => begin r.frames token
  | .itemOrClose =>
    match token with
    | .closeArray => close r.frames
    | _ => begin r.frames token
  | .memberOrClose =>
    match token with
    | .closeObject => close r.frames
    | _ => nameMember r.frames token
  | .member => nameMember r.frames token
  | .colon =>
    match token with
    | .colon => some ⟨r.frames, .value⟩
    | _ => none
  | .commaOrClose => separate r.frames token
  | .nothing _ => none

/-- The document, if it is complete. -/
def finish? (r : Reader) : Option Json :=
  match r.expecting with
  | .nothing document => some document
  | _ => none

end Reader

/-- The value that a text writes. -/
def parse? (text : String) : Option Json := do
  let tokens ← tokens? [] text.toList
  let reader ← tokens.foldlM Reader.step Reader.start
  reader.finish?

end AccessorGen.Json
