import AccessorGen.Json.Number
import AccessorGen.Text.CodePoint

set_option autoImplicit false

/-!
# JSON: tokens

The tokens of a JSON text.  A token is a mark of punctuation, a text or another
scalar; white space between tokens is dropped.  Every scan of a scalar leaves
less than it was given, which is what makes the tokenizer end.
-/

namespace AccessorGen.Json

/-- A token. -/
inductive Token where
  | openArray
  | closeArray
  | openObject
  | closeObject
  | comma
  | colon
  /-- A quoted text, or nothing if half of a surrogate pair stands in it. -/
  | text (content : Option String)
  /-- A number, a truth value or `null`. -/
  | scalar (value : Json)
  deriving Repr, Inhabited

/-- The token of a mark of punctuation. -/
def Token.ofMark? : Char → Option Token
  | '[' => some .openArray
  | ']' => some .closeArray
  | '\x7b' => some .openObject
  | '\x7d' => some .closeObject
  | ',' => some .comma
  | ':' => some .colon
  | _ => none

/-- The white space between tokens. -/
def isSpace (c : Char) : Bool := c == ' ' || c == '\t' || c == '\n' || c == '\r'

/-! ## Texts -/

/-- The code point of a one-letter escape. -/
def escaped? : Char → Option Nat
  | '"' => some 0x22
  | '\\' => some 0x5C
  | '/' => some 0x2F
  | 'b' => some 0x08
  | 'f' => some 0x0C
  | 'n' => some 0x0A
  | 'r' => some 0x0D
  | 't' => some 0x09
  | _ => none

/-- The code units of a text after its opening quote, and what follows its
closing one. -/
def scanText (units : List Nat) : List Char → Option (List Nat × List Char)
  | '"' :: rest => some (units.reverse, rest)
  | '\\' :: 'u' :: a :: b :: c :: d :: rest =>
    match Text.number? 16 [a, b, c, d] with
    | some n => scanText (n :: units) rest
    | none => none
  | '\\' :: e :: rest =>
    match escaped? e with
    | some n => scanText (n :: units) rest
    | none => none
  | c :: rest => if c.toNat < 0x20 then none else scanText (c.toNat :: units) rest
  | [] => none

/-- The code unit is the first half of a surrogate pair. -/
def isHighSurrogate (n : Nat) : Bool := 0xD800 ≤ n && n ≤ 0xDBFF

/-- The code unit is the second half of a surrogate pair. -/
def isLowSurrogate (n : Nat) : Bool := 0xDC00 ≤ n && n ≤ 0xDFFF

/-- The characters that code units write, each surrogate pair being one. -/
def joinUnits : List Nat → Option (List Char)
  | [] => some []
  | n :: rest =>
    if isLowSurrogate n then none
    else if isHighSurrogate n then
      match rest with
      | m :: rest' =>
        if isLowSurrogate m then
          (joinUnits rest').map (Char.ofNat (0x10000 + (n - 0xD800) * 0x400 + (m - 0xDC00)) :: ·)
        else none
      | [] => none
    else (joinUnits rest).map (Char.ofNat n :: ·)

/-! ## Scanning -/

/-- The scalar at the head of the characters, and what follows it. -/
def scan? : List Char → Option (Token × List Char)
  | '"' :: rest =>
    (scanText [] rest).map fun (units, rest) =>
      (.text ((joinUnits units).map String.ofList), rest)
  | 't' :: 'r' :: 'u' :: 'e' :: rest => some (.scalar (.bool true), rest)
  | 'f' :: 'a' :: 'l' :: 's' :: 'e' :: rest => some (.scalar (.bool false), rest)
  | 'n' :: 'u' :: 'l' :: 'l' :: rest => some (.scalar .null, rest)
  | c :: rest =>
    if isNumberChar c then
      (number? (c :: rest.takeWhile isNumberChar)).map fun value =>
        (.scalar value, rest.dropWhile isNumberChar)
    else none
  | [] => none

theorem length_lt_of_scanText {units result : List Nat} {cs rest : List Char}
    (h : scanText units cs = some (result, rest)) : rest.length < cs.length := by
  fun_induction scanText units cs with
  | case1 units tail =>
    obtain ⟨_, rfl⟩ := Prod.mk.inj (Option.some.inj h)
    simp
  | case2 units a b c d tail n hn ih =>
    have := ih h
    simp only [List.length_cons]
    omega
  | case3 => simp at h
  | case4 units e tail n hn _ ih =>
    have := ih h
    simp only [List.length_cons]
    omega
  | case5 => simp at h
  | case6 => simp at h
  | case7 units c tail _ _ _ hc ih =>
    have := ih h
    simp only [List.length_cons]
    omega
  | case8 => simp at h

theorem length_dropWhile_le {α : Type} (p : α → Bool) (l : List α) :
    (l.dropWhile p).length ≤ l.length :=
  (List.dropWhile_suffix p).length_le

theorem length_lt_of_scan? {cs rest : List Char} {token : Token}
    (h : scan? cs = some (token, rest)) : rest.length < cs.length := by
  unfold scan? at h
  split at h
  · rename_i tail
    cases hs : scanText [] tail with
    | none => simp [hs] at h
    | some r =>
      obtain ⟨units, tail'⟩ := r
      simp only [hs, Option.map_some, Option.some.injEq, Prod.mk.injEq] at h
      have := length_lt_of_scanText hs
      rw [← h.2, List.length_cons]
      omega
  · obtain ⟨_, rfl⟩ := Prod.mk.inj (Option.some.inj h)
    simp only [List.length_cons]
    omega
  · obtain ⟨_, rfl⟩ := Prod.mk.inj (Option.some.inj h)
    simp only [List.length_cons]
    omega
  · obtain ⟨_, rfl⟩ := Prod.mk.inj (Option.some.inj h)
    simp only [List.length_cons]
    omega
  · rename_i c tail _ _ _ _
    split at h
    · cases hn : number? (c :: tail.takeWhile isNumberChar) with
      | none => simp [hn] at h
      | some v =>
        simp only [hn, Option.map_some, Option.some.injEq, Prod.mk.injEq] at h
        have := length_dropWhile_le isNumberChar tail
        rw [← h.2, List.length_cons]
        omega
    · simp at h
  · simp at h

/-- The tokens of a text, after those already found in reverse order. -/
def tokens? (found : List Token) (cs : List Char) : Option (List Token) :=
  match cs with
  | [] => some found.reverse
  | c :: rest =>
    if isSpace c then tokens? found rest
    else match Token.ofMark? c with
      | some token => tokens? (token :: found) rest
      | none =>
        match _h : scan? (c :: rest) with
        | some (token, rest') => tokens? (token :: found) rest'
        | none => none
termination_by cs.length
decreasing_by
  · exact Nat.lt_succ_self _
  · exact Nat.lt_succ_self _
  · exact length_lt_of_scan? _h

end AccessorGen.Json
