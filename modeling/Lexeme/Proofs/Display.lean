import Mathlib
import Lexeme.Proofs.Boundaries

/-!
# Tokens as they are shown

What can be told of a token from the line that it is shown as, `Kind (value) @line:offset`.

## Main Definitions

* `Token.shownValue`, `Token.shownPlace` — the parts of the line behind the name of the kind

## Design Notes

A value is shown as it is, so it may hold any of the marks around it, and a line that is shown may
even hold another one. It is read from both ends: the first space ends the name of the kind, and the
last `@` starts the place, since names have no spaces and numbers have no marks. What is left between
the two is the value in its brackets.
-/

namespace Lexeme

/-! ## Finding a mark again -/

section Marks

variable {mark : Char} {front front' behind behind' : List Char}

/-- Two texts that are cut at their first `mark` are cut in the same place. -/
theorem eq_of_first_mark (same : front ++ mark :: behind = front' ++ mark :: behind')
    (absent : mark ∉ front) (absent' : mark ∉ front') : front = front' ∧ behind = behind' := by
  have fronts := congrArg (List.takeWhile (· ≠ mark)) same
  rw [takeWhile_ne_append absent (.inr rfl), takeWhile_ne_append absent' (.inr rfl)] at fronts
  subst fronts
  exact ⟨rfl, (List.cons.inj (List.append_cancel_left same)).2⟩

/-- So are two texts that are cut at their last one. -/
theorem eq_of_last_mark (same : front ++ mark :: behind = front' ++ mark :: behind')
    (absent : mark ∉ behind) (absent' : mark ∉ behind') : front = front' ∧ behind = behind' := by
  have reversed : behind.reverse ++ mark :: front.reverse =
      behind'.reverse ++ mark :: front'.reverse := by
    simpa using congrArg List.reverse same
  obtain ⟨back, ahead⟩ := eq_of_first_mark reversed (by simpa using absent) (by simpa using absent')
  exact ⟨List.reverse_injective ahead, List.reverse_injective back⟩

end Marks

/-! ## Numbers as they are shown -/

namespace Text

/-- Numbers that are written alike are equal. -/
theorem decimalDigits_injective : Function.Injective decimalDigits := by
  intro n m same
  have value (n : Nat) : Nat.ofDigitChars 10 (decimalDigits n) 0 = n := by simp [decimalDigits]
  rw [← value n, ← value m, same]

/-- A written number is made of digits alone. -/
theorem notMem_decimalDigits {c : Char} (other : c.isDigit = false) (n : Nat) :
    c ∉ decimalDigits n := by
  intro mem
  rw [Nat.isDigit_of_mem_toDigits (by decide) (by decide) mem] at other
  cases other

end Text

/-! ## Kinds as they are shown -/

/-- No kind has a space in its name, and none starts like what is told about a comment. -/
theorem Kind.name_ne (kind : Kind) :
    kind.name.toList.all (· ≠ ' ') = true ∧ kind.name.toList.head? ≠ some 's' := by
  cases kind <;> decide

/-- Kinds with the same name are the same. -/
theorem Kind.name_injective {kind other : Kind} (same : kind.name = other.name) : kind = other := by
  have named (kind : Kind) : ofName? kind.name = some kind := by cases kind <;> rfl
  exact Option.some.inj ((named kind).symm.trans ((congrArg ofName? same).trans (named other)))

/-- The name of a kind is one word. -/
theorem Kind.space_notMem_name (kind : Kind) : ' ' ∉ kind.name.toList := by
  intro mem
  simpa using List.all_eq_true.mp kind.name_ne.1 _ mem

/-! ## Tokens as they are shown -/

namespace Token

/-- A value in its brackets. -/
def shownValue (token : Token) : List Char := '(' :: token.value.toList ++ [')', ' ']

/-- The place of a token, behind the last `@`. -/
def shownPlace (token : Token) : List Char :=
  Text.decimalDigits token.span.start.line ++ ':' :: Text.decimalDigits token.span.start.offset

/-- A token is shown by the name of its kind, its value and its place. -/
theorem toList_display (token : Token) :
    token.display.toList =
      token.kind.name.toList ++ ' ' :: (token.shownValue ++ '@' :: token.shownPlace) := by
  simp [display, shownValue, shownPlace]

/-- A place is made of digits and a colon. -/
theorem notMem_shownPlace {c : Char} (noDigit : c.isDigit = false) (noColon : c ≠ ':')
    (token : Token) : c ∉ token.shownPlace := by
  simp [shownPlace, Text.notMem_decimalDigits noDigit, noColon]

/-- Tokens that are shown alike are of one kind. -/
theorem kind_eq_of_display_eq {token other : Token} (same : token.display = other.display) :
    token.kind = other.kind := by
  rw [← String.toList_inj, toList_display, toList_display] at same
  have names := (eq_of_first_mark same token.kind.space_notMem_name other.kind.space_notMem_name).1
  exact Kind.name_injective (String.toList_inj.mp names)

/-- Places that are shown alike are on the same line and at the same offset. -/
theorem place_eq_of_shownPlace_eq {token other : Token}
    (same : token.shownPlace = other.shownPlace) :
    token.span.start.line = other.span.start.line ∧
      token.span.start.offset = other.span.start.offset := by
  have noColon := Text.notMem_decimalDigits (c := ':') rfl
  obtain ⟨lines, offsets⟩ := eq_of_first_mark same (noColon _) (noColon _)
  exact ⟨Text.decimalDigits_injective lines, Text.decimalDigits_injective offsets⟩

/-- **A display is unambiguous.**  Tokens are shown alike exactly if they agree in kind, value, line
and offset, whatever characters their values hold. -/
theorem display_eq_iff (token other : Token) :
    token.display = other.display ↔
      token.kind = other.kind ∧ token.value = other.value ∧
        token.span.start.line = other.span.start.line ∧
        token.span.start.offset = other.span.start.offset := by
  constructor
  · intro same
    have kinds := kind_eq_of_display_eq same
    rw [← String.toList_inj, toList_display, toList_display, kinds] at same
    have shown := (List.cons.inj (List.append_cancel_left same)).2
    obtain ⟨values, places⟩ := eq_of_last_mark shown
      (notMem_shownPlace rfl (by decide) token) (notMem_shownPlace rfl (by decide) other)
    have inside := List.append_cancel_right (List.cons.inj values).2
    exact ⟨kinds, String.toList_inj.mp inside, place_eq_of_shownPlace_eq places⟩
  · rintro ⟨kinds, values, lines, offsets⟩
    rw [display, display, kinds, values, lines, offsets]

/-- A value may look like the end of a display. -/
example : display ⟨.stringLiteral, "a) @1:0", ⟨⟨3, 2, "s"⟩, ⟨12, 2, "s"⟩⟩⟩ =
    "StringLiteral (a) @1:0) @2:3" := by decide

end Token

end Lexeme
