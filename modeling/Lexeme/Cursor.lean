import Lexeme.Position

/-!
# Cursors

A cursor is a place between two characters of one source, with the characters before it and after
it at hand.

## Main Definitions

* `Cursor` — a file name, the characters passed, the characters left and the offset
* `Cursor.source` — the whole source, wherever the cursor stands
* `Cursor.current`, `Cursor.peek`, `Cursor.previous` — the characters around the cursor
* `Cursor.advance`, `Cursor.skip`, `Cursor.next` — moving forward

## Design Notes

The characters passed are kept nearest first, so that a step in either direction looks at the head
of a list. The offset is stored beside them because every position needs it, and a proof field
keeps the two together. Moving never changes `Cursor.source`, and past the last character a cursor
stays where it is.
-/

namespace Lexeme

/-- A place between two characters of a source. -/
structure Cursor where
  /-- The name of the source's file. -/
  file : String
  /-- The characters before the cursor, nearest first. -/
  passed : List Char
  /-- The characters after the cursor. -/
  rest : List Char
  /-- How many characters are before the cursor. -/
  offset : Nat := passed.length
  /-- The offset counts the characters passed. -/
  offset_eq : offset = passed.length := by rfl
  deriving DecidableEq

namespace Cursor

/-- A cursor before the first character of `source`. -/
def ofString (source file : String) : Cursor where
  file := file
  passed := []
  rest := source.toList

/-- The whole source. -/
def source (c : Cursor) : List Char := c.passed.reverse ++ c.rest

/-- The character under the cursor: the first one not passed. -/
def current (c : Cursor) : Option Char := c.rest.head?

/-- The character after the one under the cursor. -/
def peek (c : Cursor) : Option Char := c.rest.tail.head?

/-- The character just passed. -/
def previous (c : Cursor) : Option Char := c.passed.head?

/-- Whether every character has been passed. -/
def atEnd (c : Cursor) : Bool := c.rest.isEmpty

/-- Passes one character; at the end the cursor stays. -/
def advance (c : Cursor) : Cursor :=
  match c.rest with
  | [] => c
  | x :: rest =>
    { c with
      passed := x :: c.passed, rest := rest
      offset := c.offset + 1, offset_eq := by simp [c.offset_eq] }

/-- Passes one character and looks at the next one. -/
def next (c : Cursor) : Option Char × Cursor := (c.advance.current, c.advance)

/-- Passes `n` characters, or all that are left if there are fewer. -/
def skip : Nat → Cursor → Cursor
  | 0, c => c
  | n + 1, c => skip n c.advance

/-- The cursor's place in its file, on a line that the caller has counted. -/
def here (c : Cursor) (line : Nat) : Position := ⟨c.offset, line, c.file⟩

/-! ## What moving does to the view -/

@[simp] theorem source_ofString (source file : String) :
    (ofString source file).source = source.toList := rfl

@[simp] theorem rest_ofString (source file : String) :
    (ofString source file).rest = source.toList := rfl

@[simp] theorem offset_ofString (source file : String) : (ofString source file).offset = 0 := rfl

@[simp] theorem file_ofString (source file : String) : (ofString source file).file = file := rfl

@[simp] theorem file_advance (c : Cursor) : c.advance.file = c.file := by
  unfold advance; split <;> rfl

@[simp] theorem rest_advance (c : Cursor) : c.advance.rest = c.rest.tail := by
  unfold advance; split <;> simp_all

@[simp] theorem source_advance (c : Cursor) : c.advance.source = c.source := by
  unfold advance; split <;> simp_all [source]

theorem offset_advance (c : Cursor) :
    c.advance.offset = c.offset + min 1 c.rest.length := by
  unfold advance
  split
  · next left => simp [left]
  · next x rest left =>
    rw [left, List.length_cons, Nat.min_eq_left (Nat.le_add_left 1 rest.length)]

/-- At the end of the source a cursor stays. -/
theorem advance_of_rest_eq_nil {c : Cursor} (used : c.rest = []) : c.advance = c := by
  unfold advance
  split
  · rfl
  · next left => rw [used] at left; cases left

@[simp] theorem skip_zero (c : Cursor) : skip 0 c = c := rfl

@[simp] theorem skip_succ (n : Nat) (c : Cursor) : skip (n + 1) c = skip n c.advance := rfl

/-- Skipping some characters and then others is skipping all of them. -/
theorem skip_skip (m n : Nat) (c : Cursor) : skip n (skip m c) = skip (m + n) c := by
  induction m generalizing c with
  | zero => rw [skip_zero, Nat.zero_add]
  | succ m ih => rw [skip_succ, ih, Nat.add_right_comm, skip_succ]

/-- The last of the characters skipped can be passed on its own. -/
theorem advance_skip (n : Nat) (c : Cursor) : (skip n c).advance = skip (n + 1) c :=
  skip_skip n 1 c

@[simp] theorem file_skip (n : Nat) (c : Cursor) : (skip n c).file = c.file := by
  induction n generalizing c with
  | zero => rfl
  | succ n ih => simp [ih]

@[simp] theorem rest_skip (n : Nat) (c : Cursor) : (skip n c).rest = c.rest.drop n := by
  induction n generalizing c with
  | zero => rfl
  | succ n ih => simp [ih, ← List.drop_one, List.drop_drop, Nat.add_comm]

@[simp] theorem source_skip (n : Nat) (c : Cursor) : (skip n c).source = c.source := by
  induction n generalizing c with
  | zero => rfl
  | succ n ih => simp [ih]

/-- Skipping moves the offset by as many characters as there were to pass. -/
theorem offset_skip (n : Nat) (c : Cursor) :
    (skip n c).offset = c.offset + min n c.rest.length := by
  induction n generalizing c with
  | zero => simp
  | succ n ih =>
    rw [skip_succ, ih, offset_advance, rest_advance, List.length_tail]
    omega

/-- Skipping a text that stands at the cursor moves the offset by the length of the text. -/
theorem offset_skip_of_append {c : Cursor} {text after : List Char} (split : c.rest = text ++ after) :
    (skip text.length c).offset = c.offset + text.length := by
  rw [offset_skip, split, List.length_append, Nat.min_eq_left (Nat.le_add_right _ _)]

/-- The offset says how much of the source has been passed. -/
theorem rest_eq_drop (c : Cursor) : c.rest = c.source.drop c.offset := by
  simp [source, c.offset_eq]

theorem offset_add_length_rest (c : Cursor) : c.offset + c.rest.length = c.source.length := by
  simp [source, c.offset_eq]

theorem offset_le (c : Cursor) : c.offset ≤ c.source.length := by
  have := c.offset_add_length_rest
  omega

/-- Passing over a text that stands at the cursor reaches the position past that text. -/
theorem here_skip {c : Cursor} {text rest : List Char} (split : c.rest = text ++ rest)
    (line : Nat) :
    (skip text.length c).here (line + text.count '\n') = (c.here line).past text := by
  simp [here, Position.past, offset_skip_of_append split]

/-- A text without line ends is passed on one line. -/
theorem here_skip_of_notMem {c : Cursor} {text rest : List Char} (split : c.rest = text ++ rest)
    (inside : '\n' ∉ text) (line : Nat) :
    (skip text.length c).here line = (c.here line).past text := by
  rw [← here_skip split line, List.count_eq_zero.mpr inside, Nat.add_zero]

end Cursor

end Lexeme
