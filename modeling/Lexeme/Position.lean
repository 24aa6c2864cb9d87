/-!
# Positions and spans

Where something stands in a source file: how many characters come before it, and on which line it
is.

## Main Definitions

* `Position` — an offset, a line and the name of the file
* `Position.past` — the position reached by passing over a text
* `lineCounter` — a line on a counter of 32 bits
* `Span` — a start and an end position, the end being exclusive

## Design Notes

Offsets count characters (Unicode scalar values) from 0, lines count from 1, and a line ends with
`'\n'` alone. Offset and line move together, in `Position.past` alone, and `past_append` says that
passing two texts in a row is passing their concatenation.

Lines have no last one here. Where they are kept on a counter of 32 bits, `lineCounter` is what it
shows: it goes up with the line (`lineCounter_add`) and starts over behind its last number, so that
it is the line up to there only (`toNat_lineCounter`).
-/

namespace Lexeme

/-- What a counter of 32 bits shows on a line. -/
def lineCounter (line : Nat) : UInt32 := .ofNat line

/-- The counter goes up with the line, from its last number to zero. -/
theorem lineCounter_add (line more : Nat) :
    lineCounter (line + more) = lineCounter line + .ofNat more :=
  UInt32.ofNat_add line more

/-- A line that fits on the counter is the number that it shows. -/
theorem toNat_lineCounter {line : Nat} (fits : line < UInt32.size) :
    (lineCounter line).toNat = line :=
  UInt32.toNat_ofNat_of_lt' fits

/-- Up to its last number the counter follows the lines. -/
theorem lineCounter_le {line later : Nat} (le : line ≤ later) (fits : later < UInt32.size) :
    lineCounter line ≤ lineCounter later := by
  rw [UInt32.le_iff_toNat_le, toNat_lineCounter (Nat.lt_of_le_of_lt le fits),
    toNat_lineCounter fits]
  exact le

/-- A place in a source file. -/
structure Position where
  /-- The number of characters before the place. -/
  offset : Nat
  /-- The line of the place, counted from 1. -/
  line : Nat
  /-- The name of the file. -/
  file : String
  deriving DecidableEq

namespace Position

/-- The first character of a file. -/
def start (file : String) : Position := ⟨0, 1, file⟩

/-- The position reached from `p` by passing over `text`. -/
def past (p : Position) (text : List Char) : Position :=
  { p with offset := p.offset + text.length, line := p.line + text.count '\n' }

@[simp] theorem past_offset (p : Position) (text : List Char) :
    (p.past text).offset = p.offset + text.length := rfl

@[simp] theorem past_line (p : Position) (text : List Char) :
    (p.past text).line = p.line + text.count '\n' := rfl

@[simp] theorem past_file (p : Position) (text : List Char) : (p.past text).file = p.file := rfl

@[simp] theorem past_nil (p : Position) : p.past [] = p := rfl

/-- Passing two texts in a row is passing their concatenation. -/
theorem past_append (p : Position) (text more : List Char) :
    p.past (text ++ more) = (p.past text).past more := by
  simp [past, Nat.add_assoc]

end Position

/-- The stretch of a source file from `start` up to, not including, `stop`. -/
structure Span where
  /-- The place of the first character. -/
  start : Position
  /-- The place just past the last character. -/
  stop : Position
  deriving DecidableEq

/-- The stretch that `text` covers when it stands at `start`. -/
def Span.of (start : Position) (text : List Char) : Span := ⟨start, start.past text⟩

@[simp] theorem Span.of_start (start : Position) (text : List Char) :
    (Span.of start text).start = start := rfl

@[simp] theorem Span.of_stop (start : Position) (text : List Char) :
    (Span.of start text).stop = start.past text := rfl

end Lexeme
