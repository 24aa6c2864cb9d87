import Mathlib
import Lexeme.Binary64
import Lexeme.Proofs.NumberGrammar

/-!
# The value of digits

What a row of digits denotes, said by the place of each digit.

## Main Definitions

* `Numeral.place` — the place of a digit in the row `0`, …, `9`, `a`, …, `f`
* `Numeral.positional` — the number that a row of digits denotes in a base
* `Binary64.ofDigits` — the number nearest to digits before and after a point

## Design Notes

The readers of `Numeral` and `Binary64` take any text, so each of them guards against texts that are
no numerals: a sign, an empty row, a letter that is no digit, the name of an infinity. None of these
guards is met by the digits of a written number, and the lemmas here say what is left of the readers
then. Only the limit of 64 bits stays (`integer?_of_digits`).
-/

namespace Lexeme

namespace Numeral

/-- The place of a digit in the row of digits, in either case. -/
def place (c : Char) : Nat := "0123456789abcdef".toList.idxOf c.toLower

/-- The number that a row of digits denotes in a base, the most significant digit first. -/
def positional (radix : Nat) (digits : List Char) : Nat :=
  Nat.ofDigits radix (digits.map place).reverse

/-- Reading digits from the left gives what they count in their places. -/
theorem value_eq_ofDigits (radix : Nat) (digits : List Nat) :
    value radix digits = Nat.ofDigits radix digits.reverse := by
  induction digits using List.reverseRecOn with
  | nil => rfl
  | append_singleton digits digit ih =>
    rw [value_concat, ih, List.reverse_concat, Nat.ofDigits_cons, Nat.add_comm]

/-- The digits of a kind are digits of its base, and count as much as their place says. -/
theorem digit?_of_mem_digits {kind : Kind} {radix : Nat} (base : kind.radix? = some radix) {c : Char}
    (mem : c ∈ kind.digits) : digit? radix c = some (place c) := by
  have all : kind.digits.all (fun c => digit? radix c = some (place c)) = true := by
    cases kind <;> cases base <;> rfl
  exact of_decide_eq_true (List.all_eq_true.mp all c mem)

/-- Decimal digits count as much as their place says. -/
theorem digit?_of_isDigit {c : Char} (digit : c.isDigit = true) : digit? 10 c = some (place c) := by
  have base : Kind.numericLiteral.radix? = some 10 := rfl
  exact digit?_of_mem_digits base ((Number.accepts_iff_mem .decimal c).mp digit)

/-- A row of digits is read digit by digit. -/
theorem mapM_digit? {radix : Nat} {text : List Char}
    (digits : ∀ c ∈ text, digit? radix c = some (place c)) :
    text.mapM (digit? radix) = some (text.map place) := by
  induction text with
  | nil => rfl
  | cons c rest ih =>
    obtain ⟨first, later⟩ := List.forall_mem_cons.mp digits
    rw [List.mapM_cons, first, ih later]
    rfl

section Written

variable {kind : Kind} {radix : Nat} {text : List Char} (base : kind.radix? = some radix)
  (nonempty : text ≠ []) (digits : ∀ c ∈ text, c ∈ kind.digits)
include base nonempty digits

/-- A row of digits denotes its positional value. -/
theorem natural?_of_digits : natural? radix text = some (positional radix text) := by
  have places := mapM_digit? fun c mem => digit?_of_mem_digits base (digits c mem)
  rw [natural?, if_neg (by simpa using nonempty), places, Option.map_some, value_eq_ofDigits]
  rfl

/-- No digit is a sign. -/
theorem signed?_of_digits : signed? radix text = some (positional radix text : Int) := by
  have natural := natural?_of_digits base nonempty digits
  cases text with
  | nil => exact absurd rfl nonempty
  | cons c rest =>
    have alphanumeric := (Number.ne_of_mem_digits (digits c List.mem_cons_self)).2.2
    have minus : c ≠ '-' := by rintro rfl; exact absurd alphanumeric (by decide)
    have plus : c ≠ '+' := by rintro rfl; exact absurd alphanumeric (by decide)
    rw [signed?, if_neg minus, if_neg plus, natural]
    rfl

/-- A row of digits denotes an integer of 64 bits exactly if its value is below `2 ^ 63`. -/
theorem integer?_of_digits :
    integer? radix text =
      if positional radix text < 2 ^ 63 then some (positional radix text : Int) else none := by
  have bounds : (decide (minInteger ≤ (positional radix text : Int)) &&
      decide ((positional radix text : Int) ≤ maxInteger)) =
      decide (positional radix text < 2 ^ 63) := by
    rw [Bool.eq_iff_iff, Bool.and_eq_true, decide_eq_true_iff, decide_eq_true_iff,
      decide_eq_true_iff, minInteger, maxInteger]
    omega
  rw [integer?, signed?_of_digits base nonempty digits, Option.filter_some, bounds]
  simp only [decide_eq_true_eq]

end Written

end Numeral

namespace Binary64

open Numeral (place)

/-- The number nearest to decimal digits before and after a point. -/
def ofDigits (whole fraction : List Char) : Binary64 :=
  ofMagnitude false
    (Decimal.magnitude ⟨(whole ++ fraction).map place, -(fraction.length : Int)⟩)

/-- Digits at the front of a text are read. -/
theorem leadingDigits_append {digits : List Char} (decimal : ∀ c ∈ digits, c.isDigit = true)
    (rest : List Char) : leadingDigits (digits ++ rest) = digits.map place ++ leadingDigits rest := by
  have places : digits.filterMap (Numeral.digit? 10) = digits.map place :=
    List.filterMap_eq_map_iff_forall_eq_some.mpr fun c mem =>
      Numeral.digit?_of_isDigit (decimal c mem)
  rw [leadingDigits, List.takeWhile_append_of_pos decimal, List.filterMap_append, places]
  rfl

/-- Digits at the front of a text are passed over. -/
theorem afterDigits_append {digits : List Char} (decimal : ∀ c ∈ digits, c.isDigit = true)
    (rest : List Char) : afterDigits (digits ++ rest) = afterDigits rest :=
  List.dropWhile_append_of_pos decimal

/-- Digits before and after a point are a decimal numeral. -/
theorem decimal?_of_digits {whole fraction : List Char} (before : ∀ c ∈ whole, c.isDigit = true)
    (nonempty : fraction ≠ []) (after : ∀ c ∈ fraction, c.isDigit = true) :
    decimal? (whole ++ '.' :: fraction) =
      some ⟨(whole ++ fraction).map place, -(fraction.length : Int)⟩ := by
  have wholeDigits : leadingDigits (whole ++ '.' :: fraction) = whole.map place := by
    rw [leadingDigits_append before]
    exact List.append_nil _
  have point : afterDigits (whole ++ '.' :: fraction) = '.' :: fraction := afterDigits_append before _
  have fractionDigits : leadingDigits fraction = fraction.map place := by
    rw [← List.append_nil fraction, leadingDigits_append after]
    simp [leadingDigits]
  have ended : afterDigits fraction = [] := by
    rw [← List.append_nil fraction, afterDigits_append after]
    rfl
  simp only [decimal?, wholeDigits, point, List.head?_cons, List.tail_cons, if_true, fractionDigits,
    ended, ← List.map_append]
  rw [if_neg (by simpa using fun _ => nonempty), List.length_map]

/-- Digits before and after a point denote the number nearest to them. -/
theorem ofText?_of_digits {whole fraction : List Char} (before : ∀ c ∈ whole, c.isDigit = true)
    (nonempty : fraction ≠ []) (after : ∀ c ∈ fraction, c.isDigit = true) :
    ofText? (whole ++ '.' :: fraction) = some (ofDigits whole fraction) := by
  have unsigned : ∀ sign : Char, sign.isDigit = false → sign ≠ '.' →
      (whole ++ '.' :: fraction).head? ≠ some sign := by
    intro sign letter point found
    cases whole with
    | nil => exact point (Option.some.inj found).symm
    | cons c _ =>
      obtain rfl : c = sign := Option.some.inj found
      exact absurd (before c List.mem_cons_self) (by simp [letter])
  have minus := unsigned '-' rfl (by decide)
  have plus := unsigned '+' rfl (by decide)
  simp only [ofText?, minus, plus, or_self, if_false, decimal?_of_digits before nonempty after]
  rfl

end Binary64

end Lexeme
