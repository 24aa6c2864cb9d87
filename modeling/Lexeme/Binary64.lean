import Lexeme.Numeral
import Lexeme.Text.Digits

/-!
# Binary64 numbers

The floating-point numbers of 64 bits, and the one nearest to a decimal numeral.

## Main Definitions

* `Binary64` — a floating-point number by its bit pattern
* `Binary64.roundQuotient` — the nearest multiple of one, a half going to the even neighbour
* `Binary64.nearest` — the bit pattern of the number nearest to a quotient
* `Binary64.Decimal` — a decimal numeral with an exponent
* `Binary64.ofText?` — the number that a text denotes

## Design Notes

Everything is exact arithmetic on natural numbers. A positive quotient has a binary exponent; the
significand is the quotient measured in units of the last place of that exponent and rounded.
Because the pattern of the next exponent follows on the largest significand, the pattern of the
result is the exponent's base pattern plus the rounded significand, whether that is subnormal,
normal, carries into the next exponent or overflows.

A numeral whose value is far outside the range of the format is settled by its order of magnitude,
so that no power of ten much longer than the numeral is ever computed.
-/

namespace Lexeme

/-- A floating-point number of 64 bits. -/
structure Binary64 where
  /-- The sign, the exponent and the fraction. -/
  bits : UInt64
  deriving DecidableEq

namespace Binary64

/-- The pattern of positive infinity. -/
def infinityBits : Nat := 0x7FF0000000000000

/-- The pattern of a quiet NaN. -/
def nanBits : Nat := 0x7FF8000000000000

/-- The pattern of the sign. -/
def signBit : Nat := 0x8000000000000000

/-- The number with the given sign and the pattern of its magnitude. -/
def ofMagnitude (negative : Bool) (bits : Nat) : Binary64 :=
  ⟨(if negative then signBit + bits else bits).toUInt64⟩

/-- Whether the number is a NaN. -/
def isNaN (x : Binary64) : Bool := infinityBits < x.bits.toNat % signBit

/-- The sixteen hexadecimal digits of the bit pattern. -/
def hex (x : Binary64) : String :=
  let digits := Text.hexDigits x.bits.toNat
  String.ofList (List.replicate (16 - digits.length) '0' ++ digits)

/-! ## Rounding a quotient -/

/-- The whole number nearest to `num / den`; of two equally near ones the even one. -/
def roundQuotient (num den : Nat) : Nat :=
  let whole := num / den
  let twice := 2 * (num % den)
  if twice < den then whole
  else if den < twice then whole + 1
  else whole + whole % 2

/-- The quotient `num / den` divided by `2 ^ exponent`, as a numerator and a denominator. -/
def scaled (num den : Nat) (exponent : Int) : Nat × Nat :=
  (num <<< (-exponent).toNat, den <<< exponent.toNat)

/-- The greatest `e` with `2 ^ e ≤ num / den`, for a positive quotient. -/
def binaryExponent (num den : Nat) : Int :=
  let guess : Int := (Nat.log2 num : Int) - (Nat.log2 den : Int)
  let (n, d) := scaled num den guess
  if d ≤ n then guess else guess - 1

/-- The exponent of the last place of the least positive number. -/
def minExponent : Int := -1074

/-- The bit pattern of the magnitude nearest to the positive quotient `num / den`. -/
def nearest (num den : Nat) : Nat :=
  let exponent := max (binaryExponent num den - 52) minExponent
  let (n, d) := scaled num den exponent
  min infinityBits ((exponent - minExponent).toNat <<< 52 + roundQuotient n d)

/-! ## Decimal numerals -/

/-- The decimal numeral `digits` times ten to the power of `exponent`. -/
structure Decimal where
  /-- The digits before and after the point, most significant first. -/
  digits : List Nat
  /-- The power of ten of the last digit. -/
  exponent : Int

/-- The bit pattern of the magnitude nearest to a decimal numeral. A numeral from `10 ^ 310` on is
infinite and one below `10 ^ (-331)` is zero, whatever its digits are. -/
def Decimal.magnitude (d : Decimal) : Nat :=
  let significant := d.digits.dropWhile (· = 0)
  let order : Int := significant.length + d.exponent
  if significant.isEmpty then 0
  else if 310 < order then infinityBits
  else if order < -330 then 0
  else nearest (Numeral.value 10 significant * Nat.pow 10 d.exponent.toNat)
    (Nat.pow 10 (-d.exponent).toNat)

/-- The digits at the front of a text. -/
def leadingDigits (text : List Char) : List Nat :=
  (text.takeWhile Char.isDigit).filterMap (Numeral.digit? 10)

/-- What follows the digits at the front of a text. -/
def afterDigits (text : List Char) : List Char := text.dropWhile Char.isDigit

/-- From here on the digits of an exponent no longer change what a numeral rounds to, and are
passed over. -/
def exponentLimit : Nat := 0x10000

/-- The exponent after the letter `e`: an optional sign and at least one digit, up to the end. -/
def exponent? (text : List Char) : Option Int :=
  let unsigned := if text.head? = some '-' ∨ text.head? = some '+' then text.tail else text
  let digits := leadingDigits unsigned
  if digits.isEmpty || !(afterDigits unsigned).isEmpty then none
  else
    let size := digits.foldl
      (fun total digit => if total < exponentLimit then 10 * total + digit else total) 0
    some (if text.head? = some '-' then -(size : Int) else size)

/-- The unsigned decimal numeral that a text is: digits, a point and more digits, and an exponent.
The point and the exponent may be missing, and one side of the point may be empty. -/
def decimal? (text : List Char) : Option Decimal :=
  let whole := leadingDigits text
  let rest := afterDigits text
  let pointed := rest.head? = some '.'
  let fraction := if pointed then leadingDigits rest.tail else []
  let rest := if pointed then afterDigits rest.tail else rest
  let digits := whole ++ fraction
  if digits.isEmpty then none
  else match rest with
    | [] => some ⟨digits, -(fraction.length : Int)⟩
    | letter :: rest =>
      if letter = 'e' ∨ letter = 'E' then
        (exponent? rest).map fun exponent => ⟨digits, exponent - fraction.length⟩
      else none

/-- The pattern of the magnitude that a word names: an infinity or a NaN, in any case. -/
def named? (text : List Char) : Option Nat :=
  let word := text.map Char.toLower
  if word = "nan".toList then some nanBits
  else if word = "inf".toList ∨ word = "infinity".toList then some infinityBits
  else none

/-- The number nearest to what a text denotes: an optional sign before a decimal numeral or a
name. -/
def ofText? (text : List Char) : Option Binary64 :=
  let negative := text.head? = some '-'
  let unsigned := if negative ∨ text.head? = some '+' then text.tail else text
  (((decimal? unsigned).map Decimal.magnitude).or (named? unsigned)).map (ofMagnitude negative)

end Binary64

end Lexeme
