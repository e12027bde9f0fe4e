set_option autoImplicit false

/-!
# Text: code points

Code points are written as numbers in a base up to sixteen, and a property of
characters is stored as an increasing list of runs of them.  A run takes every
`stride`-th code point between its ends, because in many alphabets the lower
case letters are every other one.  Looking a code point up stops at the first
run that ends at or after it.
-/

namespace AccessorGen.Text

/-! ## Written code points -/

/-- The value of a digit. -/
def digit? (c : Char) : Option Nat :=
  if '0' ≤ c ∧ c ≤ '9' then some (c.toNat - '0'.toNat)
  else if 'a' ≤ c ∧ c ≤ 'f' then some (c.toNat - 'a'.toNat + 10)
  else if 'A' ≤ c ∧ c ≤ 'F' then some (c.toNat - 'A'.toNat + 10)
  else none

/-- The value of a digit of a base. -/
def digitBelow? (base : Nat) (c : Char) : Option Nat := (digit? c).filter (· < base)

/-- The number that digits of a base write. -/
def number? (base : Nat) (digits : List Char) : Option Nat :=
  (digits.mapM (digitBelow? base)).map fun values => values.foldl (fun n v => n * base + v) 0

/-- The character with that code point, unless it is half of a surrogate pair or
beyond all code points. -/
def scalar? (n : Nat) : Option Char := if n.isValidChar then some (Char.ofNat n) else none

/-! ## Runs -/

/-- Every `stride`-th code point from `first` up to `last`. -/
structure Run where
  first : Nat
  last : Nat
  stride : Nat
  deriving DecidableEq, Repr, Inhabited

namespace Run

/-- The code point is one of the run's. -/
def covers (r : Run) (n : Nat) : Bool :=
  r.first ≤ n && n ≤ r.last && (n - r.first) % r.stride == 0

end Run

/-- The code point lies in one of the runs, which are listed in increasing
order. -/
def covered (n : Nat) : List Run → Bool
  | [] => false
  | r :: rest => if n ≤ r.last then r.covers n else covered n rest

@[simp] theorem covered_nil (n : Nat) : covered n [] = false := rfl

theorem covered_cons_of_le {n : Nat} {r : Run} (h : n ≤ r.last) (rest : List Run) :
    covered n (r :: rest) = r.covers n := by
  simp [covered, h]

theorem covered_cons_of_gt {n : Nat} {r : Run} (h : r.last < n) (rest : List Run) :
    covered n (r :: rest) = covered n rest := by
  simp [covered, Nat.not_le.mpr h]

/-- A code point that is covered belongs to a run of the list. -/
theorem exists_mem_of_covered {n : Nat} {runs : List Run} (h : covered n runs = true) :
    ∃ r ∈ runs, r.covers n = true := by
  induction runs with
  | nil => simp at h
  | cons r rest ih =>
    by_cases hn : n ≤ r.last
    · rw [covered_cons_of_le hn] at h
      exact ⟨r, by simp, h⟩
    · rw [covered_cons_of_gt (by omega)] at h
      obtain ⟨r', hr', hc⟩ := ih h
      exact ⟨r', by simp [hr'], hc⟩

end AccessorGen.Text
