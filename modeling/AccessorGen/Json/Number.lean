import AccessorGen.Json.Basic

set_option autoImplicit false

/-!
# JSON: numbers

What the characters of a number write.  A number that is not a 64-bit integer is
taken in three steps: as many leading digits as fit a 64-bit word, the power of
ten that the other digits and the exponent leave, and the product of the two.
Each step gives the nearest double, so a number close to the largest double may
end up beyond it although it is smaller, or the other way round.  Only whether
that happens matters here; the digits themselves are kept as they are.
-/

namespace AccessorGen.Json

/-! ## Doubles -/

/-- The multiple of a unit that is nearest to a number; of two that are equally
near, the even one. -/
def nearestMultiple (unit n : Nat) : Nat :=
  if 2 * (n % unit) < unit ∨ (2 * (n % unit) = unit ∧ n / unit % 2 = 0) then n / unit * unit
  else (n / unit + 1) * unit

/-- The distance between the doubles around a number: a double has 53 binary
digits. -/
def spacing (n : Nat) : Nat := 1 <<< (n.log2 - 52)

/-- The double nearest to a natural number. -/
def nearestDouble (n : Nat) : Nat := nearestMultiple (spacing n) n

/-- The least number that rounds beyond every double. -/
def doubleLimit : Nat := Nat.pow 2 1024 - Nat.pow 2 970

/-- The exponent of the largest power of ten that is a double. -/
def maxExponent : Int := 308

/-- The product of a significand and a power of ten, both rounded to doubles, is
beyond every double. -/
def isBeyondDouble (significand : Nat) (exponent : Int) : Bool :=
  if significand = 0 ∨ exponent < 0 then false
  else if maxExponent < exponent then true
  else doubleLimit ≤ nearestDouble significand * nearestDouble (Nat.pow 10 exponent.toNat)

/-! ## Digits -/

/-- Appends a decimal digit to a number. -/
def append (n : Nat) (c : Char) : Nat := n * 10 + (c.toNat - '0'.toNat)

/-- The number that decimal digits write. -/
def decimal (digits : List Char) : Nat := digits.foldl append 0

/-- Appends digits to a number as long as it fits a 64-bit word; gives the
number, and how many digits are left over. -/
def absorb (n : Nat) : List Char → Nat × Nat
  | [] => (n, 0)
  | c :: rest =>
    if append n c < 0x10000000000000000 then absorb (append n c) rest
    else (n, rest.length + 1)

/-- The significand of a number and the exponent that belongs to it, given the
digits before and after the point and the exponent as written. -/
def scientific (whole fraction : List Char) (exponent : Int) : Nat × Int :=
  let (n, dropped) := absorb 0 whole
  let (significand, ignored) := absorb n fraction
  (significand, exponent + dropped - (fraction.length - ignored))

/-! ## Literals -/

/-- The characters numbers are written with. -/
def isNumberChar (c : Char) : Bool :=
  c.isDigit || c == '-' || c == '+' || c == '.' || c == 'e' || c == 'E'

/-- The exponent written after a significand; there may be none. -/
def exponent? : List Char → Option Int
  | [] => some 0
  | mark :: rest =>
    if mark == 'e' || mark == 'E' then
      let (negative, digits) := match rest with
        | '-' :: digits => (true, digits)
        | '+' :: digits => (false, digits)
        | digits => (false, digits)
      if digits.isEmpty || !digits.all Char.isDigit then none
      else some (if negative then -(decimal digits : Int) else decimal digits)
    else none

/-- The value of a number without fraction and exponent. -/
def wholeNumber (negative : Bool) (literal digits : List Char) : Json :=
  let n := decimal digits
  if negative then
    if n ≠ 0 ∧ n ≤ 0x8000000000000000 then .int (-(n : Int)) else .real (String.ofList literal)
  else if n < 0x10000000000000000 then .int n
  else .real (String.ofList literal)

/-- The value of a number, if the characters write one. -/
def number? (literal : List Char) : Option Json :=
  let (negative, rest) := match literal with
    | '-' :: rest => (true, rest)
    | rest => (false, rest)
  let whole := rest.takeWhile Char.isDigit
  let rest := rest.dropWhile Char.isDigit
  let whole? := match whole with
    | [] => none
    | '0' :: _ :: _ => none
    | digits => some digits
  let fraction? := match rest with
    | '.' :: rest =>
      if (rest.takeWhile Char.isDigit).isEmpty then none
      else some (rest.takeWhile Char.isDigit, rest.dropWhile Char.isDigit)
    | rest => some ([], rest)
  match whole?, fraction? with
  | some whole, some (fraction, rest) =>
    match exponent? rest with
    | some exponent =>
      let (significand, exponent) := scientific whole fraction exponent
      if isBeyondDouble significand exponent then some .unusable
      else if fraction.isEmpty && rest.isEmpty then some (wholeNumber negative literal whole)
      else some (.real (String.ofList literal))
    | none => none
  | _, _ => none

end AccessorGen.Json
