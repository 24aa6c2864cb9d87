/-!
# Numerals

The whole number that a row of digits denotes.

## Main Definitions

* `Numeral.digit?` — the value of a digit in a base up to 36
* `Numeral.value` — the value of a row of digits
* `Numeral.natural?` — the number that a text of digits denotes
* `Numeral.integer?` — the 64-bit integer that a text with an optional sign denotes
-/

namespace Lexeme.Numeral

/-- The value of a character as a digit: `0` to `9`, then the letters in either case. -/
def digitValue? (c : Char) : Option Nat :=
  if '0' ≤ c ∧ c ≤ '9' then some (c.toNat - '0'.toNat)
  else if 'a' ≤ c ∧ c ≤ 'z' then some (c.toNat - 'a'.toNat + 10)
  else if 'A' ≤ c ∧ c ≤ 'Z' then some (c.toNat - 'A'.toNat + 10)
  else none

/-- The value of a digit of the base `radix`. -/
def digit? (radix : Nat) (c : Char) : Option Nat := (digitValue? c).filter (· < radix)

/-- The value of a row of digits, the most significant one first. -/
def value (radix : Nat) (digits : List Nat) : Nat :=
  digits.foldl (fun total digit => radix * total + digit) 0

/-- The number that a text of at least one digit denotes. -/
def natural? (radix : Nat) (text : List Char) : Option Nat :=
  if text.isEmpty then none else (text.mapM (digit? radix)).map (value radix)

/-- The least integer of 64 bits. -/
def minInteger : Int := -0x8000000000000000

/-- The greatest integer of 64 bits. -/
def maxInteger : Int := 0x7FFFFFFFFFFFFFFF

/-- The integer that a text of digits after an optional sign denotes. -/
def signed? (radix : Nat) (text : List Char) : Option Int :=
  match text with
  | [] => none
  | sign :: digits =>
    if sign = '-' then (natural? radix digits).map fun n => -(n : Int)
    else if sign = '+' then (natural? radix digits).map fun n => (n : Int)
    else (natural? radix text).map fun n => (n : Int)

/-- The integer that a text denotes, if it is one of 64 bits. -/
def integer? (radix : Nat) (text : List Char) : Option Int :=
  (signed? radix text).filter fun n => minInteger ≤ n && n ≤ maxInteger

@[simp] theorem value_nil (radix : Nat) : value radix [] = 0 := rfl

/-- One more digit multiplies what is before it by the base. -/
theorem value_concat (radix : Nat) (digits : List Nat) (digit : Nat) :
    value radix (digits ++ [digit]) = radix * value radix digits + digit := by
  simp [value]

end Lexeme.Numeral
