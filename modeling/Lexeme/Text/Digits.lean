/-!
# Numbers as text

The two ways a number is written in what the program prints.

## Main Definitions

* `decimalDigits`, `decimal` — base ten, without leading zeros, as characters and as a string
* `hexDigits` — base sixteen in lower case, without leading zeros
-/

namespace Lexeme.Text

/-- A number in base ten, without leading zeros. -/
def decimalDigits (n : Nat) : List Char := Nat.toDigits 10 n

/-- A number in base ten as a string. -/
def decimal (n : Nat) : String := String.ofList (decimalDigits n)

/-- A number in base sixteen with lower-case letters, without leading zeros. -/
def hexDigits (n : Nat) : List Char := Nat.toDigits 16 n

@[simp] theorem toList_decimal (n : Nat) : (decimal n).toList = decimalDigits n := by
  simp [decimal]

end Lexeme.Text
