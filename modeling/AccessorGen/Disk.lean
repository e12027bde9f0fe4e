set_option autoImplicit false

/-!
# Disks

A tree of files and directories in memory, and how paths lead through it.  A
path is a text with slashes between its steps; it starts in the working
directory unless it begins with a slash.  A step can only be taken from a
directory that is there.  Creating something needs the directory around it, and
the last step of the path has to be a name.

Names are compared character by character, so that two spellings which differ in
case or in the composition of their characters are two names.  There are no
links: every file and directory has one place, and a path that leads anywhere
leads there through the directories it names.
-/

namespace AccessorGen

/-- The path of a name inside a directory; an absolute name stands for itself. -/
def joinPath (directory name : String) : String :=
  match name.toList with
  | '/' :: _ => name
  | _ =>
    if directory = "" || directory.toList.getLast? == some '/' then directory ++ name
    else directory ++ "/" ++ name

/-- Why a file or directory cannot be used. -/
inductive AccessFault where
  | notFound
  | isDirectory
  | notDirectory
  | alreadyExists
  /-- The content of the file is no text. -/
  | notText
  /-- A name, or the path as a whole, has too many bytes. -/
  | nameTooLong
  /-- The path holds a character that no path can hold. -/
  | malformedPath
  /-- A fault that only the system can describe. -/
  | other (description : String)
  deriving DecidableEq, Repr, Inhabited

/-- The fault in words. -/
def AccessFault.text : AccessFault → String
  | notFound => "no such file or directory"
  | isDirectory => "is a directory"
  | notDirectory => "not a directory"
  | alreadyExists => "file exists"
  | notText => "file is not valid UTF-8"
  | nameTooLong => "file name too long"
  | malformedPath => "path contains a null character"
  | other description => description

/-- What is stored at a place. -/
inductive DiskEntry where
  | directory
  | text (content : String)
  /-- A file whose content is no text. -/
  | binary
  deriving DecidableEq, Repr, Inhabited

/-- A place, as the names that lead to it from the root. -/
abbrev Place := List String

/-- Files and directories, each at its place; the first entry for a place
counts. -/
structure Disk where
  entries : List (Place × DiskEntry)
  deriving DecidableEq, Repr, Inhabited

namespace Disk

/-- The working directory. -/
def home : Place := ["work"]

/-- The disk with nothing but an empty working directory. -/
def empty : Disk := ⟨[(home, .directory)]⟩

/-- The most bytes a name can have. -/
def maxNameBytes : Nat := 255

/-- The most bytes a path can have. -/
def maxPathBytes : Nat := 4095

/-- What is stored at a place; the root is a directory. -/
def get? (d : Disk) (place : Place) : Option DiskEntry :=
  if place = [] then some .directory else d.entries.lookup place

/-- Stores an entry at a place. -/
def put (d : Disk) (place : Place) (entry : DiskEntry) : Disk :=
  if d.entries.any (·.1 == place) then
    ⟨d.entries.map fun e => if e.1 = place then (place, entry) else e⟩
  else ⟨d.entries ++ [(place, entry)]⟩

/-- Looking a place up after its entry has been replaced. -/
theorem lookup_replace (place key : Place) (entry : DiskEntry)
    (entries : List (Place × DiskEntry)) :
    (entries.map fun e => if e.1 = place then (place, entry) else e).lookup key =
      if key = place then (entries.lookup key).map fun _ => entry else entries.lookup key := by
  induction entries with
  | nil => simp
  | cons e rest ih =>
    obtain ⟨k, v⟩ := e
    by_cases hk : k = place
    · subst hk
      by_cases hkey : key = k
      · subst hkey
        simp
      · have hbeq : (key == k) = false := by simpa using hkey
        simp only [List.map_cons, if_true, List.lookup_cons, hbeq]
        exact ih
    · by_cases hkey : key = k
      · subst hkey
        simp [hk]
      · have hbeq : (key == k) = false := by simpa using hkey
        simp only [List.map_cons, if_neg hk, List.lookup_cons, hbeq]
        exact ih

/-- A place is among the entries exactly if looking it up finds something. -/
theorem any_eq_isSome_lookup (place : Place) (entries : List (Place × DiskEntry)) :
    entries.any (·.1 == place) = (entries.lookup place).isSome := by
  induction entries with
  | nil => rfl
  | cons e rest ih =>
    obtain ⟨k, v⟩ := e
    by_cases hkey : place = k
    · simp [hkey]
    · have hbeq : (place == k) = false := by simpa using hkey
      have hbeq' : (k == place) = false := by simpa using Ne.symm hkey
      simp only [List.any_cons, List.lookup_cons, hbeq, hbeq', Bool.false_or]
      exact ih

/-- A place holds what was put there. -/
theorem get?_put_self (d : Disk) {place : Place} (h : place ≠ []) (entry : DiskEntry) :
    (d.put place entry).get? place = some entry := by
  simp only [get?, if_neg h, put, any_eq_isSome_lookup]
  cases hl : d.entries.lookup place with
  | none => simp [List.lookup_append, hl]
  | some _ => simp [lookup_replace, hl]

/-- What is put at one place leaves all others alone. -/
theorem get?_put_of_ne (d : Disk) {place other : Place} (h : other ≠ place)
    (entry : DiskEntry) : (d.put place entry).get? other = d.get? other := by
  have hbeq : (other == place) = false := by simpa using h
  unfold get? put
  split
  · rfl
  · split
    · rw [lookup_replace, if_neg h]
    · simp [List.lookup_append, List.lookup_cons, hbeq]

/-- Where a path begins, and its steps. -/
def route (path : String) : Place × List String :=
  let start := match path.toList with
    | '/' :: _ => []
    | _ => home
  (start, (path.toList.splitOn '/').map String.ofList)

/-- The place that one step leads to. -/
def step (place : Place) (name : String) : Place :=
  if name = "" || name = "." then place
  else if name = ".." then place.dropLast
  else place ++ [name]

/-- The step is a name, and not one of those that stay or go back. -/
def isName (step : String) : Bool := step != "" && step != "." && step != ".."

/-- The path is one that can be followed. -/
def checkPath (path : String) : Except AccessFault Unit :=
  if path.toList.contains '\x00' then .error .malformedPath
  else if maxPathBytes < path.utf8ByteSize then .error .nameTooLong
  else if path = "" then .error .notFound
  else .ok ()

/-- The path without slashes at its end. -/
def dropSlashes (path : String) : String :=
  String.ofList (path.toList.reverse.dropWhile (· == '/')).reverse

/-- The place that steps lead to.  Every place that a step is taken from has to
be a directory. -/
def walk (d : Disk) (place : Place) : List String → Except AccessFault Place
  | [] => .ok place
  | name :: rest =>
    match d.get? place with
    | some .directory =>
      if maxNameBytes < name.utf8ByteSize then .error .nameTooLong
      else walk d (step place name) rest
    | some _ => .error .notDirectory
    | none => .error .notFound

/-- The directory that the last step is taken from, and that step. -/
def approach (d : Disk) (start : Place) (steps : List String) :
    Except AccessFault (Place × String) := do
  let place ← d.walk start (steps.dropLast ++ ["."])
  .ok (place, steps.getLastD ".")

/-! ## Reading -/

/-- The place that a path leads to. -/
def locate (d : Disk) (path : String) : Except AccessFault Place := do
  checkPath path
  d.walk (route path).1 (route path).2

/-- The text of a file. -/
def readText (d : Disk) (path : String) : Except AccessFault String := do
  let place ← d.locate path
  match d.get? place with
  | some (.text content) => .ok content
  | some .binary => .error .notText
  | some .directory => .error .isDirectory
  | none => .error .notFound

/-- The path leads to a file. -/
def isFile (d : Disk) (path : String) : Bool :=
  match d.locate path with
  | .error _ => false
  | .ok place =>
    match d.get? place with
    | some (.text _) | some .binary => true
    | _ => false

/-! ## Writing -/

/-- Stores an entry under a new name in a directory, unless the name is taken by
something that has to stay. -/
def create (d : Disk) (place : Place) (name : String) (entry : DiskEntry)
    (stays : DiskEntry → Option AccessFault) : Except AccessFault Disk :=
  if maxNameBytes < name.utf8ByteSize then .error .nameTooLong
  else match (d.get? (place ++ [name])).bind stays with
    | some fault => .error fault
    | none => .ok (d.put (place ++ [name]) entry)

/-- Writes a text to a file, which is created if its directory is there.  A path
with a slash at its end can only be one of a directory. -/
def writeText (d : Disk) (path content : String) : Except AccessFault Disk := do
  checkPath path
  let bare := dropSlashes path
  let (place, name) ← d.approach (route path).1 (route bare).2
  if bare ≠ path ∨ !isName name then .error .isDirectory
  else d.create place name (.text content) fun
    | .directory => some .isDirectory
    | _ => none

/-- Creates the directory that the last step leads to. -/
def makeDirectory (d : Disk) (start : Place) (steps : List String) :
    Except AccessFault Disk := do
  let (place, name) ← d.approach start steps
  if isName name then d.create place name .directory fun _ => some .alreadyExists
  else .error .alreadyExists

/-- The steps lead to a directory. -/
def isDirectory (d : Disk) (start : Place) (steps : List String) : Bool :=
  match d.walk start steps with
  | .ok place => d.get? place == some .directory
  | .error _ => false

/-- Creates the first directory of a list whose others are further and further
out.  One that is there already will do.  If something around it is missing, the
others are created first; what has been created stays, also after a fault. -/
def makeFirst (d : Disk) (start : Place) : List (List String) → Except AccessFault Unit × Disk
  | [] => (.ok (), d)
  | steps :: outer =>
    match d.makeDirectory start steps with
    | .ok made => (.ok (), made)
    | .error .notFound =>
      match makeFirst d start outer with
      | (.error fault, made) => (.error fault, made)
      | (.ok (), made) =>
        match made.makeDirectory start steps with
        | .ok all => (.ok (), all)
        | .error fault => (if made.isDirectory start steps then .ok () else .error fault, made)
    | .error fault => (if d.isDirectory start steps then .ok () else .error fault, d)

/-- The steps to a directory and to those around it, from the inside out.  The
directories around it are told from the path alone: a step that stays does not
count as one. -/
def enclosing (steps : List String) : List (List String) :=
  let moves := steps.filter fun step => step != "" && step != "."
  steps :: (List.range moves.length).reverse.map moves.take

/-- Creates a directory and those around it that are missing. -/
def makeDirectories (d : Disk) (path : String) : Except AccessFault Unit × Disk :=
  if path = "" then (.ok (), d)
  else
    match checkPath path with
    | .error fault => (.error fault, d)
    | .ok () => d.makeFirst (route path).1 (enclosing (route (dropSlashes path)).2)

end Disk

end AccessorGen
