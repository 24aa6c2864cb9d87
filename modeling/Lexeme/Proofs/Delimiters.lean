import Mathlib
import Lexeme.Proofs.Boundaries

/-!
# Reading up to a delimiter

What reading a quoted literal comes to at any cursor and for any delimiter: the token or error, and
where cursor and line are left, also when the literal is refused.

## Main Definitions

* `Cursor.beyond` — the text after the character under a cursor
* `Quoted.Becomes` — what a quoted literal comes to, by its delimiter and its content

## Design Notes

Neither the character under the cursor nor the delimiter is assumed to be a quote, so nothing here
rests on a source being cut into elements. The content is what comes before the first delimiter in
the text beyond the cursor (`Quoted.scan_of_notMem`), and where the cursor is left follows from its
length. A delimiter that is a line end is not counted as one, since content never contains it.
-/

namespace Lexeme

namespace Cursor

/-- The text after the character under the cursor. -/
def beyond (c : Cursor) : List Char := c.source.drop (c.offset + 1)

theorem tail_rest (c : Cursor) : c.rest.tail = c.beyond := by
  rw [rest_eq_drop, List.tail_drop, beyond]

/-- If there is text beyond a cursor, then there is a character under it. -/
theorem exists_rest_of_beyond {c : Cursor} (nonempty : c.beyond ≠ []) :
    ∃ d, c.rest = d :: c.beyond := by
  rw [← tail_rest] at nonempty ⊢
  cases left : c.rest with
  | nil => rw [left] at nonempty; exact absurd rfl nonempty
  | cons d rest => exact ⟨d, rfl⟩

/-- Passing all that is left leads to the end of the source. -/
theorem offset_skip_length_rest (c : Cursor) : (skip c.rest.length c).offset = c.source.length := by
  rw [offset_skip, Nat.min_self, offset_add_length_rest]

end Cursor

namespace Quoted

/-- What a quoted literal with the delimiter `d` comes to, when it covers `span` and holds
`content`. -/
inductive Becomes (d : Char) (content : List Char) (span : Span) : Except Error Token → Prop
  /-- One character between single quotes. -/
  | char (single : d = singleQuote) (one : content.length = 1) :
      Becomes d content span (.ok ⟨.charLiteral, String.ofList content, span⟩)
  /-- Nothing between single quotes. -/
  | empty (single : d = singleQuote) (nothing : content = []) :
      Becomes d content span (.error ⟨.emptyCharLiteral, span.start⟩)
  /-- More than one character between single quotes. -/
  | overflow (single : d = singleQuote) (more : 2 ≤ content.length) :
      Becomes d content span (.error ⟨.charLiteralOverflow (String.ofList content), span.start⟩)
  /-- Any text between backquotes. -/
  | template (back : d = backquote) :
      Becomes d content span (.ok ⟨.templateString, String.ofList content, span⟩)
  /-- Any text between other characters. -/
  | string (notSingle : d ≠ singleQuote) (notBack : d ≠ backquote) :
      Becomes d content span (.ok ⟨.stringLiteral, String.ofList content, span⟩)

/-- The judgement on its content says what a literal comes to, wherever it stands. -/
theorem becomes_of_judge (d : Char) (content : List Char) {scan : Scan}
    (judged : scan.outcome = judge d content) (cursor : Cursor) (line : Nat) :
    Becomes d content ⟨cursor.here line,
        (scan.readAt cursor line).cursor.here (scan.readAt cursor line).line⟩
      (scan.readAt cursor line).token := by
  simp only [Scan.readAt, judged]
  unfold judge
  by_cases single : d = singleQuote
  · have isChar : kindOf d = .charLiteral := by rw [single]; rfl
    rw [if_pos isChar]
    cases content with
    | nil => exact .empty single rfl
    | cons c rest =>
      cases rest with
      | nil => exact .char single rfl
      | cons e rest => exact .overflow single (Nat.le_add_left 2 rest.length)
  · by_cases back : d = backquote
    · have kind : kindOf d = .templateString := by rw [back]; rfl
      rw [kind]
      exact .template back
    · have kind : kindOf d = .stringLiteral := by rw [kindOf, if_neg single, if_neg back]
      rw [kind]
      exact .string single back

/-- Without a closing delimiter a literal is refused where it starts, and all text is passed. -/
theorem read_of_notMem {cursor : Cursor} {d : Char} (absent : d ∉ cursor.beyond) (line : Nat) :
    read cursor line d = ⟨.error ⟨.unterminatedLiteral d, cursor.here line⟩,
      cursor.skip cursor.rest.length, line + cursor.beyond.count '\n'⟩ := by
  rw [read, scan_of_notMem_tail (by rwa [cursor.tail_rest]), cursor.tail_rest]
  rfl

/-- **Quoted literals.**  If the delimiter does not occur beyond the cursor, the literal is refused
where it starts, the cursor is left at the end of the source, and all line ends are counted.
Otherwise the cursor is left just past the first delimiter and the line ends before it are counted,
whatever becomes of the literal. -/
theorem read_up_to_delimiter (cursor : Cursor) (line : Nat) (d : Char) :
    (read cursor line d).cursor.source = cursor.source ∧
    (read cursor line d).cursor.file = cursor.file ∧
    (d ∉ cursor.beyond →
      (read cursor line d).token =
        .error ⟨.unterminatedLiteral d, ⟨cursor.offset, line, cursor.file⟩⟩ ∧
      (read cursor line d).cursor.offset = cursor.source.length ∧
      (read cursor line d).line = line + cursor.beyond.count '\n') ∧
    ∀ content after, cursor.beyond = content ++ d :: after → d ∉ content →
      (read cursor line d).cursor.offset = cursor.offset + content.length + 2 ∧
      (read cursor line d).cursor.rest = after ∧
      (read cursor line d).line = line + content.count '\n' ∧
      Becomes d content ⟨⟨cursor.offset, line, cursor.file⟩,
        ⟨cursor.offset + content.length + 2, line + content.count '\n', cursor.file⟩⟩
          (read cursor line d).token := by
  refine ⟨Cursor.source_skip _ _, Cursor.file_skip _ _, ?_, ?_⟩
  · intro absent
    rw [read_of_notMem absent]
    exact ⟨rfl, cursor.offset_skip_length_rest, rfl⟩
  · intro content after split inside
    have nonempty : cursor.beyond ≠ [] := by rw [split]; simp
    obtain ⟨opening, rest⟩ := Cursor.exists_rest_of_beyond nonempty
    have scanned := scan_of_notMem inside opening after
    rw [← split, ← rest] at scanned
    have covers : cursor.rest = (opening :: content ++ [d]) ++ after := by rw [rest, split]; simp
    have length : (opening :: content ++ [d]).length = content.length + 2 := by simp
    have becomes : Becomes d content ⟨cursor.here line,
        (read cursor line d).cursor.here (read cursor line d).line⟩ (read cursor line d).token :=
      becomes_of_judge d content (congrArg Scan.outcome scanned) cursor line
    have offset : (read cursor line d).cursor.offset = cursor.offset + content.length + 2 := by
      rw [read, scanned, Scan.readAt, Cursor.offset_skip_of_append covers, length]
      rfl
    have left : (read cursor line d).cursor.rest = after := by
      rw [read, scanned, Scan.readAt, Cursor.rest_skip, covers, List.drop_left]
    have lines : (read cursor line d).line = line + content.count '\n' := by
      rw [read, scanned, Scan.readAt]
    have file : (read cursor line d).cursor.file = cursor.file := Cursor.file_skip _ _
    rw [Cursor.here, Cursor.here, offset, lines, file] at becomes
    exact ⟨offset, left, lines, becomes⟩

/-- A line end as delimiter, two line ends between single quotes, and a literal that is not closed. -/
theorem read_up_to_delimiter_over_line_ends :
    Becomes '\n' ['a', 'b'] ⟨⟨0, 7, "s"⟩, ⟨4, 7, "s"⟩⟩ (read (.ofString "xab\n\n" "s") 7 '\n').token ∧
    Becomes singleQuote ['\n', '\n'] ⟨⟨1, 7, "s"⟩, ⟨5, 9, "s"⟩⟩
      (read (Cursor.skip 1 (.ofString " '\n\n'" "s")) 7 singleQuote).token ∧
    (read (Cursor.skip 1 (.ofString " '\n\n'" "s")) 7 singleQuote).line = 9 ∧
    (read (.ofString "'\na" "s") 7 singleQuote).token =
      .error ⟨.unterminatedLiteral singleQuote, ⟨0, 7, "s"⟩⟩ := by
  obtain ⟨-, -, -, string⟩ := read_up_to_delimiter (.ofString "xab\n\n" "s") 7 '\n'
  obtain ⟨-, -, string⟩ := (string ['a', 'b'] ['\n'] rfl (by decide)).2
  obtain ⟨-, -, -, char⟩ :=
    read_up_to_delimiter (Cursor.skip 1 (.ofString " '\n\n'" "s")) 7 singleQuote
  obtain ⟨-, lines, char⟩ := (char ['\n', '\n'] [] rfl (by decide)).2
  obtain ⟨-, -, unclosed, -⟩ := read_up_to_delimiter (.ofString "'\na" "s") 7 singleQuote
  exact ⟨string, char, lines, (unclosed (by decide)).1⟩

end Quoted

end Lexeme
