import Mathlib
import Lexeme.Proofs.LiteralValues
import Lexeme.Proofs.Reprint

/-!
# Writing integers

The ways to write an integer, and what is read from each of them.

## Main Definitions

* `Number.Spaced` — digits in either case, with separators between some of them
* `Number.Spells` — the texts that an integer is written as with the numbers of a kind

## Design Notes

The grammar goes from a text to its value, and many texts have one value. Here the integer comes
first: its digits are those of `Nat.toDigits`, and a text that spells it may add zeros behind the
mark, capitals and separators. None of this is computed, so `Spells` is a relation, and what it
relates is a written number (`Spells.exists_written`). Everything about scanning is then completeness
of the grammar, and everything about reading is the value of the digits.
-/

namespace Lexeme

/-! ## Digits -/

namespace Number

/-- The capital of a digit is a digit of the same kind and counts as much. -/
theorem mem_digits_of_same {kind : Kind} {c d : Char} (mem : d ∈ kind.digits)
    (same : c = d ∨ c = d.toUpper) : c ∈ kind.digits ∧ Numeral.place c = Numeral.place d := by
  have all : kind.digits.all (fun d => d.toUpper ∈ kind.digits ∧
      Numeral.place d.toUpper = Numeral.place d) = true := by
    cases kind <;> rfl
  rcases same with rfl | rfl
  · exact ⟨mem, rfl⟩
  · exact of_decide_eq_true (List.all_eq_true.mp all d mem)

/-- Decimal digits have no capitals. -/
theorem toUpper_of_isDigit {d : Char} (digit : d.isDigit = true) : d.toUpper = d := by
  have all : Kind.numericLiteral.digits.all (fun d => d.toUpper = d) = true := rfl
  have mem := (accepts_iff_mem .decimal d).mp digit
  exact of_decide_eq_true (List.all_eq_true.mp all d mem)

end Number

namespace Numeral

section Base

variable {kind : Kind} {radix : Nat} (base : kind.radix? = some radix)
include base

/-- Every base has at least two digits. -/
theorem one_lt_radix : 1 < radix := by
  cases kind <;> cases base <;> decide

/-- The digits of a base are those of its kind. -/
theorem digitChar_mem_digits {k : Nat} (lt : k < radix) : k.digitChar ∈ kind.digits := by
  cases kind <;> cases base <;> decide +revert

/-- Each digit of a base has the place of what it counts. -/
theorem place_digitChar {k : Nat} (lt : k < radix) : place k.digitChar = k := by
  cases kind <;> cases base <;> decide +revert

/-- The digits of a number, the most significant one first. -/
theorem toDigits_eq_map_digits {n : Nat} (pos : n ≠ 0) :
    Nat.toDigits radix n = (Nat.digits radix n).reverse.map Nat.digitChar := by
  have two := one_lt_radix base
  induction n using Nat.strongRecOn with
  | ind n ih =>
    by_cases small : n < radix
    · rw [Nat.toDigits_of_lt_base small, Nat.digits_of_lt radix n pos small]
      rfl
    · have le : radix ≤ n := Nat.not_lt.mp small
      have higher : n / radix ≠ 0 := (Nat.div_pos le (by omega)).ne'
      have digits : Nat.digits radix n = n % radix :: Nat.digits radix (n / radix) :=
        Nat.digits_def' two (Nat.pos_of_ne_zero pos)
      rw [Nat.toDigits_of_base_le two le, ih _ (Nat.div_lt_self (Nat.pos_of_ne_zero pos) two) higher,
        digits, List.reverse_cons, List.map_append]
      rfl

/-- A number is written with the digits of its kind. -/
theorem mem_digits_of_mem_toDigits {n : Nat} {d : Char} (mem : d ∈ Nat.toDigits radix n) :
    d ∈ kind.digits := by
  have two := one_lt_radix base
  by_cases zero : n = 0
  · rw [zero, Nat.toDigits_zero, List.mem_singleton] at mem
    subst mem
    exact digitChar_mem_digits base (Nat.zero_lt_of_lt two)
  · rw [toDigits_eq_map_digits base zero] at mem
    obtain ⟨k, found, rfl⟩ := List.mem_map.mp mem
    exact digitChar_mem_digits base (Nat.digits_lt_base two (List.mem_reverse.mp found))

/-- The digits of a number are worth that number. -/
theorem positional_toDigits (n : Nat) : positional radix (Nat.toDigits radix n) = n := by
  have two := one_lt_radix base
  by_cases zero : n = 0
  · rw [zero, Nat.toDigits_zero]
    rfl
  · have places : ∀ k ∈ Nat.digits radix n, (place ∘ Nat.digitChar) k = id k := fun k mem =>
      place_digitChar base (Nat.digits_lt_base two mem)
    rw [positional, toDigits_eq_map_digits base zero, List.map_map, ← List.map_reverse,
      List.reverse_reverse, List.map_congr_left places, List.map_id, Nat.ofDigits_digits]

end Base

/-- Leading zeros are worth nothing. -/
theorem positional_replicate_append (radix zeros : Nat) (digits : List Char) :
    positional radix (List.replicate zeros '0' ++ digits) = positional radix digits := by
  have zero : place '0' = 0 := rfl
  rw [positional, List.map_append, List.map_replicate, zero, List.reverse_append,
    List.reverse_replicate, Nat.ofDigits_append_replicate_zero, positional]

/-- A positive number does not start with a zero. -/
theorem head?_toDigits {n : Nat} (pos : n ≠ 0) : (Nat.toDigits 10 n).head? ≠ some '0' := by
  have base : Kind.numericLiteral.radix? = some 10 := rfl
  intro first
  rw [toDigits_eq_map_digits base pos, List.head?_map, List.head?_reverse,
    List.getLast?_eq_some_getLast (Nat.digits_ne_nil_iff_ne_zero.mpr pos)] at first
  exact Nat.getLast_digit_ne_zero 10 pos (Nat.digitChar_eq_zero.mp (Option.some.inj first))

end Numeral

namespace Number

/-! ## Texts of a number -/

/-- `Spaced digits text`: the text has these digits, each as it is or as its capital, and one
separator at most between two of them, which are then decimal digits. -/
inductive Spaced : List Char → List Char → Prop
  | nil : Spaced [] []
  | digit {d c : Char} {digits text : List Char} (same : c = d ∨ c = d.toUpper)
      (later : Spaced digits text) : Spaced (d :: digits) (c :: text)
  | separator {d e : Char} {digits text : List Char} (before : d.isDigit = true)
      (after : e.isDigit = true) (later : Spaced (e :: digits) text) :
      Spaced (d :: e :: digits) (d :: '_' :: text)

/-- `Spells kind n text`: the text is `n`, written as a number of the kind. -/
inductive Spells : Kind → Nat → List Char → Prop
  /-- In base ten, the digits alone. -/
  | decimal {n : Nat} {text : List Char} (spaced : Spaced (Nat.toDigits 10 n) text) :
      Spells .numericLiteral n text
  /-- In another base, its mark and the digits after any number of zeros. -/
  | marked {kind : Kind} {radix n : Nat} {marker : Char} {text : List Char} (zeros : Nat)
      (base : kind.radix? = some radix) (mem : marker ∈ kind.markers)
      (spaced : Spaced (List.replicate zeros '0' ++ Nat.toDigits radix n) text) :
      Spells kind n ('0' :: marker :: text)

/-- Digits may be left as they are. -/
theorem Spaced.refl : ∀ digits, Spaced digits digits
  | [] => .nil
  | _ :: digits => .digit (.inl rfl) (refl digits)

/-- An integer can be written in every base: with the mark that it is printed with and its digits
alone. -/
theorem Spells.plain {kind : Kind} {radix : Nat} (base : kind.radix? = some radix) (n : Nat) :
    Spells kind n (kind.opening ++ Nat.toDigits radix n) := by
  have spaced := Spaced.refl (Nat.toDigits radix n)
  cases kind with
  | numericLiteral =>
    cases base
    exact .decimal spaced
  | binaryLiteral | octalLiteral | hexaLiteral => exact .marked 0 base List.mem_cons_self spaced
  | _ => cases base

/-- A text has a character for each digit. -/
theorem Spaced.ne_nil {digits text : List Char} (spaced : Spaced digits text)
    (nonempty : digits ≠ []) : text ≠ [] := by
  cases spaced with
  | nil => exact absurd rfl nonempty
  | digit _ _ | separator _ _ _ => exact List.cons_ne_nil _ _

/-- A text starts with its first digit, which is as it is if it is a decimal one. -/
theorem Spaced.head?_of_isDigit {d : Char} {digits text : List Char}
    (spaced : Spaced (d :: digits) text) (digit : d.isDigit = true) : text.head? = some d := by
  cases spaced with
  | digit same _ =>
    rw [toUpper_of_isDigit digit, or_self] at same
    rw [same]
    rfl
  | separator _ _ _ => rfl

section Spaced

variable {form : Form} {digits text : List Char} (spaced : Spaced digits text)
  (known : ∀ d ∈ digits, d ∈ form.kind.digits)
include spaced known

/-- Spaced digits of a form are read as such. -/
theorem Spaced.run (last : Option Char) : Run form last text := by
  have accepts {c : Char} (mem : c ∈ form.kind.digits) : form.accepts c = true :=
    (accepts_iff_mem form c).mpr mem
  induction spaced generalizing last with
  | nil => exact .nil
  | digit same _ ih =>
    obtain ⟨first, known⟩ := List.forall_mem_cons.mp known
    exact .digit (accepts (mem_digits_of_same first same).1) (ih known _)
  | separator before after later ih =>
    obtain ⟨first, known⟩ := List.forall_mem_cons.mp known
    have next := later.head?_of_isDigit after
    exact .digit (accepts first) (.separator before (by rwa [next]) (ih known _))

/-- Capitals and separators leave the value of digits as it is. -/
theorem Spaced.positional_filter (radix : Nat) :
    Numeral.positional radix (text.filter (· ≠ '_')) = Numeral.positional radix digits := by
  suffices places : (text.filter (· ≠ '_')).map Numeral.place = digits.map Numeral.place by
    rw [Numeral.positional, places, Numeral.positional]
  have kept {c : Char} (mem : c ∈ form.kind.digits) (rest : List Char) :
      (c :: rest).filter (· ≠ '_') = c :: rest.filter (· ≠ '_') :=
    List.filter_cons_of_pos (by simpa using (ne_of_mem_digits mem).1)
  induction spaced with
  | nil => rfl
  | digit same _ ih =>
    obtain ⟨first, known⟩ := List.forall_mem_cons.mp known
    obtain ⟨mem, place⟩ := mem_digits_of_same first same
    rw [kept mem, List.map_cons, List.map_cons, place, ih known]
  | separator _ _ _ ih =>
    obtain ⟨first, known⟩ := List.forall_mem_cons.mp known
    rw [kept first, List.filter_cons_of_neg (by simp), List.map_cons, ih known]
    rfl

end Spaced

/-- The digits of a number in base ten, spaced, are a decimal integer. -/
theorem Spaced.isWhole {n : Nat} {text : List Char} (spaced : Spaced (Nat.toDigits 10 n) text) :
    IsWhole text := by
  have base : Kind.numericLiteral.radix? = some 10 := rfl
  have known : ∀ d ∈ Nat.toDigits 10 n, d ∈ Form.decimal.kind.digits :=
    fun d => Numeral.mem_digits_of_mem_toDigits base
  obtain ⟨d, digits, cons⟩ := List.exists_cons_of_ne_nil (Nat.toDigits_ne_nil (n := n) (b := 10))
  have first : text.head? = (Nat.toDigits 10 n).head? := by
    have mem : d ∈ Nat.toDigits 10 n := by simp [cons]
    have decimal : d.isDigit = true := (accepts_iff_mem .decimal d).mpr (known d mem)
    rw [cons] at spaced ⊢
    exact spaced.head?_of_isDigit decimal
  refine ⟨spaced.ne_nil Nat.toDigits_ne_nil, isBody_of_run (spaced.run known none) rfl, ?_⟩
  by_cases zero : n = 0
  · rw [zero, Nat.toDigits_zero] at spaced
    cases spaced with
    | digit same later =>
      cases later
      rcases same with rfl | rfl <;> exact .inl rfl
  · right
    rw [first]
    exact Numeral.head?_toDigits zero

/-- **A text that spells an integer is a written number**, and its digits are worth the integer. -/
theorem Spells.exists_written {kind : Kind} {n : Nat} {text : List Char}
    (spells : Spells kind n text) :
    ∃ radix mark digits, kind.radix? = some radix ∧ Written kind mark digits ∧
      text = mark ++ digits ∧ Numeral.positional radix (digits.filter (· ≠ '_')) = n := by
  cases spells with
  | decimal spaced =>
    have base : Kind.numericLiteral.radix? = some 10 := rfl
    have known : ∀ d ∈ Nat.toDigits 10 n, d ∈ Form.decimal.kind.digits :=
      fun d => Numeral.mem_digits_of_mem_toDigits base
    refine ⟨10, [], text, base, .decimal spaced.isWhole, rfl, ?_⟩
    rw [spaced.positional_filter known, Numeral.positional_toDigits base]
  | @marked _ radix _ marker text zeros base mem spaced =>
    obtain ⟨form, -, rfl, -⟩ := exists_form_of_mem_markers mem
    have known : ∀ d ∈ List.replicate zeros '0' ++ Nat.toDigits radix n, d ∈ form.kind.digits := by
      intro d found
      rcases List.mem_append.mp found with zero | digit
      · rw [List.eq_of_mem_replicate zero]
        cases form <;> decide
      · exact Numeral.mem_digits_of_mem_toDigits base digit
    have nonempty : text ≠ [] :=
      spaced.ne_nil (List.append_ne_nil_of_right_ne_nil _ Nat.toDigits_ne_nil)
    have body := isBody_of_run (spaced.run known (some marker)) (not_digit_of_mem_markers mem).2
    refine ⟨radix, ['0', marker], text, base, .marked mem nonempty body, rfl, ?_⟩
    rw [spaced.positional_filter known, Numeral.positional_replicate_append,
      Numeral.positional_toDigits base]

/-- An integer starts with a digit, and a number starts there. -/
theorem Written.exists_cons {kind : Kind} {radix : Nat} {mark digits : List Char}
    (written : Written kind mark digits) (base : kind.radix? = some radix) :
    ∃ c rest, mark ++ digits = c :: rest ∧ Element.startsNumber c rest = true := by
  cases written with
  | @decimal whole integer =>
    obtain ⟨c, rest, rfl⟩ := List.exists_cons_of_ne_nil integer.ne_nil
    have mem : c ∈ Kind.numericLiteral.digits := by
      rcases integer.body.mem c List.mem_cons_self with digit | rfl
      · exact digit
      · exact absurd (integer.body.separated [] rest rfl).1 (by decide)
    have digit : c.isDigit = true := (accepts_iff_mem .decimal c).mpr mem
    exact ⟨c, rest, rfl, by simp [Element.startsNumber, digit]⟩
  | float _ _ _ => cases base
  | marked _ _ _ => exact ⟨'0', _, rfl, rfl⟩

/-- A written number stands on one line. -/
theorem Written.newline_notMem {kind : Kind} {mark digits : List Char}
    (written : Written kind mark digits) : '\n' ∉ mark ++ digits := by
  have inside := newline_notMem_text_scan (mark ++ digits ++ [])
  rwa [@scan_of_written _ _ _ [] written trivial] at inside

end Number

/-! ## Reading what is written -/

/-- An integer written alone is read as one token. -/
theorem Lexer.result_tokenize_of_written {lexer : Lexer} {source : String} {kind : Kind} {radix : Nat}
    {mark digits : List Char} (base : kind.radix? = some radix)
    (written : Number.Written kind mark digits) (split : source.toList = mark ++ digits)
    (file : String) :
    (lexer.tokenize source file).result = .ok [⟨kind, String.ofList (digits.filter (· ≠ '_')),
      .of (.start file) source.toList⟩] := by
  obtain ⟨c, rest, cons, starts⟩ := written.exists_cons base
  have cut := Cut.alone (@Number.first_of_written lexer.strict c rest _ _ _ written cons starts)
  rw [Element.text, ← cons, ← split] at cut
  exact Lexer.result_tokenize_of_cut cut file

/-- **Integers survive writing and reading.**  A text that spells an integer, in any base and however
it is spaced, is read as one token of the kind of that base, which spans the whole text. The token
denotes the integer if 64 bits can hold it, and is refused where it starts otherwise. -/
theorem tokenize_of_spells (lexer : Lexer) (source file : String) {kind : Kind} {n : Nat}
    (spells : Number.Spells kind n source.toList) :
    ∃ token, (lexer.tokenize source file).result = .ok [token] ∧ token.kind = kind ∧
      token.span = ⟨⟨0, 1, file⟩, ⟨source.length, 1, file⟩⟩ ∧
      Literal.ofToken token =
        if n < 2 ^ 63 then .ok ⟨.integer n, token.span⟩
        else .error ⟨.numberParseError token.value, token.span.start⟩ := by
  obtain ⟨radix, mark, digits, base, written, split, value⟩ := spells.exists_written
  refine ⟨_, Lexer.result_tokenize_of_written base written split file, rfl, ?_, ?_⟩
  · have line : source.toList.count '\n' = 0 := by
      rw [split]
      exact List.count_eq_zero.mpr written.newline_notMem
    rw [← String.length_toList]
    simp [Span.of, Position.past, Position.start, line]
  · rw [Literal.ofToken, Literal.Value.ofText_of_written base written String.toList_ofList,
      String.toList_ofList, value]
    by_cases fits : n < 2 ^ 63
    · rw [if_pos fits, if_pos fits]
    · rw [if_neg fits, if_neg fits]

/-- A small and a capital letter after a leading zero, with a separator on both sides, and the least
integer that is refused. -/
theorem tokenize_of_spells_of_capital :
    (∃ token, ((Lexer.new true).tokenize "0X0_7fF00_0" "s").result = .ok [token] ∧
      token.kind = .hexaLiteral ∧ token.span = ⟨⟨0, 1, "s"⟩, ⟨11, 1, "s"⟩⟩ ∧
      Literal.ofToken token = .ok ⟨.integer 0x7FF000, token.span⟩) ∧
    ∃ token, ((Lexer.new true).tokenize "0o1000000000000000000000" "s").result = .ok [token] ∧
      token.kind = .octalLiteral ∧ token.span = ⟨⟨0, 1, "s"⟩, ⟨24, 1, "s"⟩⟩ ∧
      Literal.ofToken token = .error ⟨.numberParseError token.value, token.span.start⟩ := by
  have capital : Number.Spells .hexaLiteral 0x7FF000 "0X0_7fF00_0".toList :=
    .marked 1 rfl (by decide) (.separator rfl rfl (.digit (.inl rfl) (.digit (.inl rfl)
      (.digit (.inr rfl) (.digit (.inl rfl) (.separator rfl rfl (.digit (.inl rfl) .nil)))))))
  have limit : Number.Spells .octalLiteral (2 ^ 63) "0o1000000000000000000000".toList :=
    @Number.Spells.plain .octalLiteral 8 rfl (2 ^ 63)
  exact ⟨tokenize_of_spells (.new true) _ "s" capital, tokenize_of_spells (.new true) _ "s" limit⟩

end Lexeme
