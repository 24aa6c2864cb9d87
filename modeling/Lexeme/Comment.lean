/-!
# Comments

Text that is skipped: from `//` to the end of the line, or from `/*` to the first `*/` after it.

## Main Definitions

* `Comment.line` — the characters up to the end of the line
* `Comment.blockLength?` — how many characters come before the first `*/` of a text

## Design Notes

Block comments do not nest, and the star of an opening `/*` does not close it: the end is looked
for in the text after the opening.
-/

namespace Lexeme.Comment

/-- The characters of a text up to, not including, the first line end. -/
def line (text : List Char) : List Char := text.takeWhile (· ≠ '\n')

/-- How many characters of a text come before its first `*/`. -/
def blockLength? (text : List Char) : Option Nat :=
  (text.zip text.tail).findIdx? fun pair => pair.1 = '*' && pair.2 = '/'

@[simp] theorem blockLength?_nil : blockLength? [] = none := rfl

/-- The first `*/` is right here or further on. -/
theorem blockLength?_cons (c : Char) (rest : List Char) :
    blockLength? (c :: rest) =
      if c = '*' ∧ rest.head? = some '/' then some 0 else (blockLength? rest).map (· + 1) := by
  cases rest with
  | nil => simp [blockLength?]
  | cons d rest =>
    simp [blockLength?, List.findIdx?_cons]

/-- After the characters before it, the first `*/` follows. -/
theorem drop_of_blockLength? {text : List Char} {n : Nat} (found : blockLength? text = some n) :
    ∃ rest, text.drop n = '*' :: '/' :: rest := by
  induction text generalizing n with
  | nil => cases found
  | cons c tail ih =>
    rw [blockLength?_cons] at found
    split at found
    · next here =>
      obtain ⟨rfl, next⟩ := here
      cases found
      cases tail with
      | nil => cases next
      | cons d rest => exact ⟨rest, by simpa using next⟩
    · obtain ⟨m, later, rfl⟩ := Option.map_eq_some_iff.mp found
      simpa using ih later

/-- The first closing mark of a text stands in it. -/
theorem lt_length_of_blockLength? {text : List Char} {n : Nat}
    (found : blockLength? text = some n) : n < text.length := by
  obtain ⟨rest, left⟩ := drop_of_blockLength? found
  have length := congrArg List.length left
  rw [List.length_drop, List.length_cons] at length
  omega

/-- What a block comment passes over ends with `*/`. -/
theorem take_of_blockLength? {tail : List Char} {n : Nat}
    (found : blockLength? tail = some n) : tail.take (n + 2) = tail.take n ++ ['*', '/'] := by
  obtain ⟨more, left⟩ := drop_of_blockLength? found
  rw [List.take_add, left]
  rfl

/-- The line end that ends a line comment is no part of it. -/
theorem newline_notMem_line (text : List Char) : '\n' ∉ line text := by
  intro newline
  simpa using List.all_eq_true.mp List.all_takeWhile '\n' newline

end Lexeme.Comment
