import Lexeme.Position

/-!
# Lines of a source

The line that a place of a source is on.

## Main Definitions

* `Line` — the number and text of a line, and a place in it
* `Line.split` — the lines of a text, each with the line end that closes it
* `Line.find` — walks along lines to the one that holds an offset
* `Line.at?` — the line of the place before which `offset` characters stand

## Design Notes

A line holds the line end that closes it. The place after the last character is on the last line,
which is empty if the source ends with a line end or is empty itself. So an offset is on the line
whose characters it is before, except at the end of a line that nothing closes.
-/

namespace Lexeme

/-- A line of a source and a place in it. -/
structure Line where
  /-- The number of the line, counted from 1. -/
  number : Nat
  /-- The characters of the line, its line end included. -/
  text : List Char
  /-- How many characters of the line stand before the place. -/
  column : Nat
  deriving DecidableEq

namespace Line

/-- Puts one more character before the first of some lines. A line end closes a line of its own. -/
def push (c : Char) (lines : List (List Char)) : List (List Char) :=
  if c = '\n' then [c] :: lines
  else match lines with
    | [] => [[c]]
    | line :: lines => (c :: line) :: lines

/-- The lines of a text, each with the line end that closes it. -/
def split (text : List Char) : List (List Char) := text.foldr push []

/-- Walks along `lines`, the first of which has the number `number` and starts at `start`, to the
one that holds the place before which `offset` characters stand. -/
def find (offset number start : Nat) : List (List Char) → Option Line
  | [] => if offset = start then some ⟨number, [], 0⟩ else none
  | line :: lines =>
    let stop := start + line.length
    if (start ≤ offset ∧ offset < stop) ∨ (offset = stop ∧ line.getLast? ≠ some '\n') then
      some ⟨number, line, offset - start⟩
    else find offset (number + 1) stop lines

/-- The line of the place before which `offset` characters of the source stand, if there are that
many. -/
def at? (source : List Char) (offset : Nat) : Option Line := find offset 1 0 (split source)

@[simp] theorem split_nil : split [] = [] := rfl

theorem split_cons (c : Char) (text : List Char) : split (c :: text) = push c (split text) := rfl

/-- The first line of a text ends with its first line end. -/
theorem split_append_newline {body : List Char} (inside : '\n' ∉ body) (rest : List Char) :
    split (body ++ '\n' :: rest) = (body ++ ['\n']) :: split rest := by
  induction body with
  | nil => rfl
  | cons c body ih =>
    obtain ⟨first, later⟩ := List.ne_and_not_mem_of_not_mem_cons inside
    rw [List.cons_append, split_cons, ih later, push, if_neg (Ne.symm first)]
    rfl

/-- A text without line ends is one line, if it is not empty. -/
theorem split_of_notMem {body : List Char} (inside : '\n' ∉ body) (nonempty : body ≠ []) :
    split body = [body] := by
  induction body with
  | nil => exact absurd rfl nonempty
  | cons c body ih =>
    obtain ⟨first, later⟩ := List.ne_and_not_mem_of_not_mem_cons inside
    rw [split_cons]
    cases body with
    | nil => simp [push, Ne.symm first]
    | cons d body =>
      have tail : split (d :: body) = [d :: body] := ih later (List.cons_ne_nil d body)
      rw [tail, push, if_neg (Ne.symm first)]

end Line

end Lexeme
