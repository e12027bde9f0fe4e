import AccessorGen.Text.CodePoint

set_option autoImplicit false

/-!
# TOML: texts

The four ways to write a text.  A basic text stands between quotes and has
escapes, a literal text stands between apostrophes and has none; with the
delimiter written three times either one may run over several lines.  Each scan
starts after the opening delimiter and gives the text and what follows it.
-/

namespace AccessorGen.Toml

/-- The character may stand in a comment or in a text as it is. -/
def isPlain (c : Char) : Bool := c == '\t' || (0x20 ≤ c.toNat && c.toNat != 0x7F)

/-- The white space within a line. -/
def isSpace (c : Char) : Bool := c == ' ' || c == '\t'

/-- What follows the end of a line. -/
def afterNewline? : List Char → Option (List Char)
  | '\n' :: rest => some rest
  | '\r' :: '\n' :: rest => some rest
  | _ => none

/-- Skips white space and ends of lines. -/
def skipLines : List Char → List Char
  | ' ' :: rest => skipLines rest
  | '\t' :: rest => skipLines rest
  | '\n' :: rest => skipLines rest
  | '\r' :: '\n' :: rest => skipLines rest
  | cs => cs

/-- The character of an escape, after its backslash, and what follows it. -/
def escape? : List Char → Option (Char × List Char)
  | 'x' :: a :: b :: rest =>
    ((Text.number? 16 [a, b]).bind Text.scalar?).map (·, rest)
  | 'u' :: a :: b :: c :: d :: rest =>
    ((Text.number? 16 [a, b, c, d]).bind Text.scalar?).map (·, rest)
  | 'U' :: a :: b :: c :: d :: e :: f :: g :: h :: rest =>
    ((Text.number? 16 [a, b, c, d, e, f, g, h]).bind Text.scalar?).map (·, rest)
  | 'b' :: rest => some ('\x08', rest)
  | 't' :: rest => some ('\t', rest)
  | 'n' :: rest => some ('\n', rest)
  | 'f' :: rest => some ('\x0c', rest)
  | 'r' :: rest => some ('\r', rest)
  | 'e' :: rest => some ('\x1b', rest)
  | '"' :: rest => some ('"', rest)
  | '\\' :: rest => some ('\\', rest)
  | _ => none

/-- A basic text of one line. -/
def basic (found cs : List Char) : Option (List Char × List Char) :=
  match cs with
  | [] => none
  | '"' :: rest => some (found.reverse, rest)
  | '\\' :: rest =>
    match escape? rest with
    | some (c, after) =>
      if _h : after.length < rest.length then basic (c :: found) after else none
    | none => none
  | c :: rest => if isPlain c then basic (c :: found) rest else none
termination_by cs.length
decreasing_by
  · exact Nat.lt_succ_of_lt _h
  · exact Nat.lt_succ_self _

/-- A literal text of one line. -/
def literal (found : List Char) : List Char → Option (List Char × List Char)
  | [] => none
  | '\'' :: rest => some (found.reverse, rest)
  | c :: rest => if isPlain c then literal (c :: found) rest else none

/-- How a run of delimiters in a text of several lines is read: one or two are
part of the text, three end it, and up to two more before those are part of it
again. -/
def closing? (mark : Char) (found cs : List Char) : Option (List Char × List Char) :=
  let run := cs.takeWhile (· == mark)
  if 3 ≤ run.length ∧ run.length ≤ 5 then
    some ((List.replicate (run.length - 3) mark ++ found).reverse, cs.drop run.length)
  else none

/-- A basic text of several lines; a backslash at the end of a line joins it to
the next text there is. -/
def basicLines (found cs : List Char) : Option (List Char × List Char) :=
  match cs with
  | [] => none
  | '"' :: '"' :: '"' :: rest => closing? '"' found ('"' :: '"' :: '"' :: rest)
  | '\\' :: rest =>
    match afterNewline? (rest.dropWhile isSpace) with
    | some after =>
      if _h : (skipLines after).length < rest.length then basicLines found (skipLines after)
      else none
    | none =>
      match escape? rest with
      | some (c, after) =>
        if _h : after.length < rest.length then basicLines (c :: found) after else none
      | none => none
  | '\r' :: '\n' :: rest => basicLines ('\n' :: '\r' :: found) rest
  | c :: rest => if c == '\n' || isPlain c then basicLines (c :: found) rest else none
termination_by cs.length
decreasing_by
  · exact Nat.lt_succ_of_lt _h
  · exact Nat.lt_succ_of_lt _h
  · exact Nat.lt_succ_of_lt (Nat.lt_succ_self _)
  · exact Nat.lt_succ_self _

/-- A literal text of several lines. -/
def literalLines (found : List Char) : List Char → Option (List Char × List Char)
  | [] => none
  | '\'' :: '\'' :: '\'' :: rest => closing? '\'' found ('\'' :: '\'' :: '\'' :: rest)
  | '\r' :: '\n' :: rest => literalLines ('\n' :: '\r' :: found) rest
  | c :: rest => if c == '\n' || isPlain c then literalLines (c :: found) rest else none

/-- The end of a line right after an opening delimiter is not part of the
text. -/
def skipFirstNewline (cs : List Char) : List Char := (afterNewline? cs).getD cs

end AccessorGen.Toml
