import AccessorGen.Json.Basic
import AccessorGen.Toml.Text

set_option autoImplicit false

/-!
# TOML: flat documents

A TOML document whose values are texts, truth values and integers, one key and
value a line.  Tables, arrays, dates and numbers with a fraction cannot be the
value of any setting and are refused right here.  The document is given as the
members of an object, repeated keys included.
-/

namespace AccessorGen.Toml

/-- The character may stand in a key without quotes. -/
def isBare (c : Char) : Bool := c.isAlphanum || c == '_' || c == '-'

/-- The key at the head of the characters, and what follows it. -/
def key? : List Char → Option (List Char × List Char)
  | '"' :: rest => basic [] rest
  | '\'' :: rest => literal [] rest
  | cs =>
    if (cs.takeWhile isBare).isEmpty then none
    else some (cs.takeWhile isBare, cs.dropWhile isBare)

/-- The digits of a number, which may be grouped by underscores. -/
def ungroup? (digits : List Char) : Option (List Char) :=
  let groups := digits.splitOn '_'
  if groups.any (·.isEmpty) then none else some groups.flatten

/-- The number that grouped digits of a base write. -/
def grouped? (base : Nat) (digits : List Char) : Option Nat :=
  (ungroup? digits).bind (Text.number? base)

/-- A decimal number, which has no zero in front. -/
def decimal? (digits : List Char) : Option Nat :=
  match digits with
  | '0' :: _ :: _ => none
  | _ => grouped? 10 digits

/-- The integer that the characters write. -/
def integer? : List Char → Option Int
  | '0' :: 'x' :: digits => (grouped? 16 digits).map Int.ofNat
  | '0' :: 'o' :: digits => (grouped? 8 digits).map Int.ofNat
  | '0' :: 'b' :: digits => (grouped? 2 digits).map Int.ofNat
  | '+' :: digits => (decimal? digits).map Int.ofNat
  | '-' :: digits => (decimal? digits).map fun n => -(n : Int)
  | digits => (decimal? digits).map Int.ofNat

/-- The character ends a truth value or a number. -/
def isDelimiter (c : Char) : Bool := isSpace c || c == '#' || c == '\n' || c == '\r'

/-- The truth value or the integer that the characters write. -/
def scalar? (cs : List Char) : Option Json :=
  if cs = "true".toList then some (.bool true)
  else if cs = "false".toList then some (.bool false)
  else (integer? cs).map .int

/-- A text that has been scanned, as a value. -/
def textValue (scanned : Option (List Char × List Char)) : Option (Json × List Char) :=
  scanned.map fun (cs, rest) => (.str (String.ofList cs), rest)

/-- The value at the head of the characters, and what follows it. -/
def value? : List Char → Option (Json × List Char)
  | '"' :: '"' :: '"' :: rest => textValue (basicLines [] (skipFirstNewline rest))
  | '"' :: rest => textValue (basic [] rest)
  | '\'' :: '\'' :: '\'' :: rest => textValue (literalLines [] (skipFirstNewline rest))
  | '\'' :: rest => textValue (literal [] rest)
  | cs =>
    let isPart (c : Char) : Bool := !isDelimiter c
    (scalar? (cs.takeWhile isPart)).map (·, cs.dropWhile isPart)

/-- The end of a line after its content: a comment may come first.  Gives what
follows the line, or `none` inside at the end of the document. -/
def lineEnd? (cs : List Char) : Option (Option (List Char)) :=
  let rest := match cs.dropWhile isSpace with
    | '#' :: comment => comment.dropWhile isPlain
    | rest => rest
  match rest with
  | [] => some none
  | rest => (afterNewline? rest).map some

/-- A key and its value, and what follows them. -/
def assignment? (cs : List Char) : Option ((String × Json) × List Char) := do
  let (key, rest) ← key? cs
  match rest.dropWhile isSpace with
  | '=' :: rest =>
    let (value, rest) ← value? (rest.dropWhile isSpace)
    some ((String.ofList key, value), rest)
  | _ => none

/-- A line: the entry on it, if there is one, and the lines after it. -/
def line? (cs : List Char) : Option (List (String × Json) × Option (List Char)) :=
  match lineEnd? cs with
  | some next => some ([], next)
  | none => do
    let (entry, rest) ← assignment? (cs.dropWhile isSpace)
    let next ← lineEnd? rest
    some ([entry], next)

/-- The entries of the lines, after those already found. -/
def lines? (found : List (String × Json)) (cs : List Char) : Option (List (String × Json)) :=
  match line? cs with
  | none => none
  | some (entries, none) => some (found ++ entries)
  | some (entries, some rest) =>
    if _h : rest.length < cs.length then lines? (found ++ entries) rest else none
termination_by cs.length
decreasing_by exact _h

/-- The entries of a document, which may begin with a byte order mark. -/
def parse? (text : String) : Option (List (String × Json)) :=
  lines? [] (match text.toList with
    | '\uFEFF' :: rest => rest
    | cs => cs)

end AccessorGen.Toml
