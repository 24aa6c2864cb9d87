import Mathlib
import Lexeme.Diagnostic
import Lexeme.Proofs.Concatenation
import Lexeme.Proofs.Evidence
import Lexeme.Proofs.Positions

/-!
# Where the caret points

A diagnostic shows a line of source between two rows that have a bar and nothing else but a caret.
The caret is below the character at the place of the error.

## Main Definitions

* `Diagnostic.Pictured` — a text that ends with three rows, their bars in one column
* `Cause.Marks` — which character of the shown line a caret is below

## Design Notes

The shown line has lost its indentation and the blanks at its end, and the caret has moved left by
the indentation. That fits for a place at a character that is no blank, since such a character is
neither in what is lost on the left nor in what is lost on the right (`getElem?_sourceRow`).

A scan never stops at a blank, except behind a number that must not end there
(`Element.exists_not_isBlank_of_first`): a blank looks to it like the end of the text, and there no
other cause is evident. In that case the character that is not blank is the one before the place.
-/

namespace Lexeme

namespace Diagnostic

/-! ## Rows -/

/-- A text that ends with three rows, each closed by a line end: their first bars stand in one
column, and the first caret of the last row stands in the column `caret`. -/
structure Pictured (text top middle bottom : List Char) (caret : Nat) : Prop where
  /-- The rows are whole rows, and the last ones. -/
  exists_before : ∃ before, text = before ++ [top, middle, bottom].flatMap (· ++ ['\n']) ∧
    before.getLast? = some '\n'
  /-- There is no line end inside a row. -/
  newline_notMem : ∀ row ∈ [top, middle, bottom], '\n' ∉ row
  /-- The bars stand one below the other. -/
  bars : ∃ bar, ∀ row ∈ [top, middle, bottom], row.idxOf? '|' = some bar
  /-- The caret stands in its column. -/
  idxOf?_caret : bottom.idxOf? '^' = some caret

/-- How many characters of indentation a text starts with. -/
def indentation (text : List Char) : Nat := (text.takeWhile isIndent).length

/-- The row that shows a line of source. -/
def sourceRow (number : List Char) (line : Line) : List Char :=
  number ++ [' ', '|', ' '] ++ trimEnd (line.text.drop (indentation line.text))

/-- The row with the caret. -/
def caretRow (number : List Char) (line : Line) : List Char :=
  bar number ++ [' '] ++ List.replicate (line.column - indentation line.text) '-' ++ ['^']

/-- The number stands in front of the bar. -/
theorem number_isPrefix_sourceRow (number : List Char) (line : Line) :
    number ++ [' ', '|'] <+: sourceRow number line :=
  ⟨' ' :: trimEnd (line.text.drop (indentation line.text)), by simp [sourceRow]⟩

theorem picture_eq (number : List Char) (line : Line) :
    picture number line = [bar number, sourceRow number line, caretRow number line] := rfl

/-- A character is first found behind a text that does not have it. -/
theorem idxOf?_append_cons {c : Char} {before : List Char} (absent : c ∉ before)
    (after : List Char) : (before ++ c :: after).idxOf? c = some before.length := by
  induction before with
  | nil => simp [List.idxOf?_cons]
  | cons d before ih =>
    obtain ⟨other, absent⟩ := List.ne_and_not_mem_of_not_mem_cons absent
    simp [List.idxOf?_cons, Ne.symm other, ih absent]

/-! ## Blanks at the end -/

/-- What is trimmed is a row of blanks, and no blank is left at the end. -/
theorem exists_trimEnd (text : List Char) :
    ∃ blanks, text = trimEnd text ++ blanks ∧ (∀ c ∈ blanks, Text.isBlank c = true) ∧
      ∀ c ∈ (trimEnd text).getLast?, Text.isBlank c = false := by
  refine ⟨(text.reverse.takeWhile Text.isBlank).reverse, ?_, ?_, ?_⟩
  · rw [trimEnd, ← List.reverse_append, List.takeWhile_append_dropWhile, List.reverse_reverse]
  · intro c mem
    exact List.mem_takeWhile_imp (List.mem_reverse.mp mem)
  · intro c last
    rw [trimEnd, List.getLast?_reverse] at last
    have stop := List.head?_dropWhile_not Text.isBlank text.reverse
    rw [last] at stop
    simpa using stop

/-- A character that is no blank is not trimmed. -/
theorem getElem?_trimEnd {text : List Char} {c : Char} {i : Nat} (here : text[i]? = some c)
    (notBlank : Text.isBlank c = false) : (trimEnd text)[i]? = some c := by
  obtain ⟨blanks, split, white, -⟩ := exists_trimEnd text
  rw [split] at here
  by_cases inside : i < (trimEnd text).length
  · rwa [List.getElem?_append_left inside] at here
  · rw [List.getElem?_append_right (Nat.le_of_not_lt inside)] at here
    rw [white c (List.mem_of_getElem? here)] at notBlank
    cases notBlank

/-- What is not last in a part of a text is not last in the text. -/
theorem mem_dropLast_of_isInfix {c : Char} {part text : List Char} (inside : part <:+: text)
    (mem : c ∈ part.dropLast) : c ∈ text.dropLast := by
  obtain ⟨before, after, rfl⟩ := inside
  have nonempty : part ≠ [] := by
    rintro rfl
    cases mem
  rw [List.append_assoc, List.dropLast_append_of_ne_nil (by simp [nonempty]), List.dropLast_append]
  split
  · exact List.mem_append_right _ mem
  · exact List.mem_append_right _ (List.mem_append_left _ (List.dropLast_subset part mem))

/-- Where only the last character of a text may be a line end, it is trimmed from each of its
parts. -/
theorem newline_notMem_trimEnd {part text : List Char} (within : part <:+: text)
    (closed : '\n' ∉ text.dropLast) : '\n' ∉ trimEnd part := by
  obtain ⟨blanks, split, -, last⟩ := exists_trimEnd part
  intro mem
  have nonempty : trimEnd part ≠ [] := List.ne_nil_of_mem mem
  rw [← List.dropLast_append_getLast nonempty] at mem
  rcases List.mem_append.mp mem with further | closing
  · have starts : trimEnd part <:+: part := ⟨[], blanks, split.symm⟩
    exact closed (mem_dropLast_of_isInfix (starts.trans within) further)
  · have white := last _ (List.getLast?_eq_some_getLast nonempty)
    rw [← List.mem_singleton.mp closing] at white
    exact absurd white (by decide)

/-! ## The rows of a picture -/

section Picture

variable {number : List Char} {line : Line}

/-- A character of the line that is no blank is in the row that shows it, with nothing lost but the
indentation before it. -/
theorem getElem?_sourceRow (number : List Char) {c : Char} {i : Nat}
    (here : line.text[i]? = some c) (notBlank : Text.isBlank c = false) :
    indentation line.text ≤ i ∧
      (sourceRow number line)[number.length + 3 + (i - indentation line.text)]? = some c := by
  have behind : indentation line.text ≤ i := by
    -- The indentation consists of blanks.
    apply Nat.le_of_not_lt
    intro inside
    have split := List.takeWhile_append_dropWhile (p := isIndent) (l := line.text)
    rw [← split, List.getElem?_append_left inside] at here
    have indent := List.mem_takeWhile_imp (List.mem_of_getElem? here)
    rcases (Bool.or_eq_true _ _).mp indent with space | tab
    · rw [of_decide_eq_true space] at notBlank
      exact absurd notBlank (by decide)
    · rw [of_decide_eq_true tab] at notBlank
      exact absurd notBlank (by decide)
  refine ⟨behind, ?_⟩
  have dropped : (line.text.drop (indentation line.text))[i - indentation line.text]? = some c := by
    rw [List.getElem?_drop, Nat.add_sub_cancel' behind]
    exact here
  have margin : (number ++ [' ', '|', ' ']).length = number.length + 3 := List.length_append
  rw [sourceRow, ← margin, List.getElem?_append_right (Nat.le_add_right _ _),
    Nat.add_sub_cancel_left]
  exact getElem?_trimEnd dropped notBlank

/-- The rows of a picture are whole rows, with their bars in one column. -/
theorem pictured_picture (digits : ∀ c ∈ number, c.isDigit = true)
    (closed : '\n' ∉ line.text.dropLast) {before : List Char}
    (ended : before.getLast? = some '\n') :
    Pictured (before ++ (picture number line).flatMap (· ++ ['\n'])) (bar number)
      (sourceRow number line) (caretRow number line)
      (number.length + 3 + (line.column - indentation line.text)) := by
  have notDigit {c : Char} (other : c.isDigit = false) : c ∉ number := by
    intro mem
    rw [digits c mem] at other
    cases other
  have shown := newline_notMem_trimEnd
    (List.drop_suffix (indentation line.text) line.text).isInfix closed
  -- Each row is split at its bar, and the last one at its caret.
  have top : bar number = List.replicate (number.length + 1) ' ' ++ '|' :: [] := rfl
  have middle : sourceRow number line =
      (number ++ [' ']) ++ '|' :: ' ' :: trimEnd (line.text.drop (indentation line.text)) := by
    simp [sourceRow]
  have bottom : caretRow number line = List.replicate (number.length + 1) ' ' ++ '|' ::
      (' ' :: List.replicate (line.column - indentation line.text) '-' ++ ['^']) := by
    simp [caretRow, bar]
  have pointer : caretRow number line = (List.replicate (number.length + 1) ' ' ++ '|' ::
      ' ' :: List.replicate (line.column - indentation line.text) '-') ++ '^' :: [] := by
    simp [caretRow, bar]
  refine ⟨⟨before, by rw [picture_eq], ended⟩, ?_, ⟨number.length + 1, ?_⟩, ?_⟩
  · simp [bar, sourceRow, caretRow, notDigit, shown]
  · have inTop : (bar number).idxOf? '|' = some (number.length + 1) := by
      rw [top, idxOf?_append_cons (by simp), List.length_replicate]
    have inMiddle : (sourceRow number line).idxOf? '|' = some (number.length + 1) := by
      rw [middle, idxOf?_append_cons (by simp [notDigit]), List.length_append]
      rfl
    have inBottom : (caretRow number line).idxOf? '|' = some (number.length + 1) := by
      rw [bottom, idxOf?_append_cons (by simp), List.length_replicate]
    simp only [List.forall_mem_cons, inTop, inMiddle, inBottom, List.not_mem_nil]
    simp
  · rw [pointer, idxOf?_append_cons (by simp)]
    simp
    omega

end Picture

/-- A diagnostic of a place in the source is no message alone: it ends with a picture of the line. -/
theorem pictured_of_at? {error : Error} {source : String} {line : Line}
    (here : Line.at? source.toList error.position.offset = some line)
    (closed : '\n' ∉ line.text.dropLast) :
    Pictured (render error source).toList (bar (Text.decimalDigits error.position.line))
      (sourceRow (Text.decimalDigits error.position.line) line)
      (caretRow (Text.decimalDigits error.position.line) line)
      ((Text.decimalDigits error.position.line).length + 3 +
        (line.column - indentation line.text)) := by
  have digits : ∀ c ∈ Text.decimalDigits error.position.line, c.isDigit = true := fun c mem =>
    Nat.isDigit_of_mem_toDigits (by decide) (by decide) mem
  rw [render, String.toList_ofList, rows, here, List.flatMap_append]
  refine pictured_picture digits closed ?_
  rw [List.flatMap_cons, List.flatMap_singleton, ← List.append_assoc]
  exact List.getLast?_concat

end Diagnostic

/-! ## The line of a place -/

namespace Line

variable {line : Line} {number offset : Nat} {text : List Char} {c : Char}

/-- A character of a text stands in the column of its line that the line says. -/
theorem Shows.getElem?_text (shows : line.Shows number text offset)
    (here : text[offset]? = some c) : line.text[line.column]? = some c := by
  obtain ⟨before, after, rfl, rfl, -, -, inside | ⟨atEnd, rfl, -⟩, -⟩ := shows.exists_split
  · rwa [List.append_assoc, List.getElem?_append_right (Nat.le_add_right _ _),
      Nat.add_sub_cancel_left, List.getElem?_append_left inside] at here
  · simp [atEnd] at here

/-- The character before a place is before it on its line, unless it is a line end. -/
theorem Shows.exists_left (shows : line.Shows number text offset)
    (previous : (text.take offset).getLast? = some c) (other : c ≠ '\n') :
    ∃ left, line.column = left + 1 ∧ line.text[left]? = some c := by
  obtain ⟨before, after, rfl, rfl, opened, -, inside, -⟩ := shows.exists_split
  have within : line.column ≤ line.text.length := by
    rcases inside with inside | ⟨atEnd, -⟩
    · exact Nat.le_of_lt inside
    · exact Nat.le_of_eq atEnd
  rw [List.append_assoc, List.take_length_add_append, List.take_append_of_le_length within]
    at previous
  cases place : line.column with
  | zero =>
    -- The place is where the line starts, so a line end is before it, or nothing.
    rw [place, List.take_zero, List.append_nil] at previous
    rcases opened with rfl | closing
    · cases previous
    · exact absurd (Option.some.inj (previous.symm.trans closing)) other
  | succ left =>
    have last : line.text[left]? = some line.text[left] := List.getElem?_eq_getElem (by omega)
    rw [place, List.take_add_one, last, ← List.append_assoc] at previous
    exact ⟨left, rfl, last.trans (List.getLast?_concat.symm.trans previous)⟩

end Line

/-! ## Characters at the place of a fault -/

/-- What a number must not end in is no blank. -/
theorem Number.not_isBlank_of_mem_ends {found : Char}
    (mem : found ∈ ['.', 'b', 'B', 'o', 'O', 'x', 'X']) : Text.isBlank found = false := by
  have all : ['.', 'b', 'B', 'o', 'O', 'x', 'X'].all (Text.isBlank · = false) = true := by decide
  exact of_decide_eq_true (List.all_eq_true.mp all found mem)

/-- Every cause but one is evident from a character after its place. -/
theorem Cause.Evident.found_or_ne_nil {strict : Bool} {before after : List Char} {cause : Cause}
    (evident : cause.Evident strict before after) :
    (∃ found, cause = .numberMustEndNumeric found) ∨ after ≠ [] := by
  cases cause with
  | numberMustEndNumeric found => exact .inl ⟨found, rfl⟩
  | _ =>
    refine .inr ?_
    rintro rfl
    simp [Evident] at evident

/-- Only a number is refused behind its first character. -/
theorem Element.scan_of_ahead_ne_nil {strict : Bool} {c : Char} {rest : List Char} {fault : Fault}
    (refused : first strict c rest = .error fault) (behind : fault.ahead ≠ []) :
    startsNumber c rest = true ∧ (Number.scan (c :: rest)).outcome = .error fault := by
  have spec := first_spec strict c rest
  generalize first strict c rest = result at spec refused
  cases spec with
  | blank _ => cases refused
  | word _ _ => cases refused
  | number starts => exact ⟨starts, (ofScan_eq_error_iff _ _).mp refused⟩
  | quoted _ => exact absurd (Quoted.ahead_scan ((ofScan_eq_error_iff _ _).mp refused)) behind
  | lineComment _ _ => cases refused
  | blockComment _ _ =>
    unfold block at refused
    split at refused <;> cases refused
    exact absurd rfl behind
  | symbol _ _ => cases refused
  | unknown _ _ _ _ _ =>
    split at refused <;> cases refused
    exact absurd rfl behind

/-- A number is refused before a blank only because it must not end there. -/
theorem Number.exists_found_of_scan {c d : Char} {read more : List Char} {fault : Fault}
    (starts : Element.startsNumber c (read ++ d :: more) = true)
    (white : Text.isBlank d = true)
    (refused : (scan (c :: (read ++ d :: more))).outcome = .error fault)
    (ahead : fault.ahead = c :: read) : ∃ found, fault.cause = .numberMustEndNumeric found := by
  have notDigit : d.isDigit = false := (Bool.or_eq_false_iff.mp (other_of_isBlank white).1).2
  have starts' : Element.startsNumber c read = true := by
    refine (Bool.or_eq_true _ _).mpr (((Bool.or_eq_true _ _).mp starts).imp_right ?_)
    intro separator
    cases read with
    | nil => simp [notDigit] at separator
    | cons _ _ => exact separator
  -- The number is refused in the same way where the text ends, and there is nothing behind it.
  rw [scan_append (other_of_isBlank white)] at refused
  have evident : fault.cause.Evident true ([] ++ _) _ := evident_of_scan starts' refused
  rw [← ahead_scan refused, ahead, List.drop_length] at evident
  rcases evident.found_or_ne_nil with ⟨found, same⟩ | nonempty
  · exact ⟨found, same⟩
  · exact absurd rfl nonempty

/-- **A scan does not stop at a blank**, except behind a number that must not end there. -/
theorem Element.exists_not_isBlank_of_first {strict : Bool} {c : Char} {rest : List Char}
    {fault : Fault} (refused : first strict c rest = .error fault)
    (other : ∀ found, fault.cause ≠ .numberMustEndNumeric found) :
    ∃ d, ((c :: rest).drop fault.ahead.length).head? = some d ∧ Text.isBlank d = false := by
  obtain ⟨after, split⟩ := ahead_isPrefix_of_first refused
  have evident := evident_of_first refused []
  rw [← split, List.drop_left] at evident ⊢
  rcases evident.found_or_ne_nil with ⟨found, same⟩ | nonempty
  · exact absurd same (other found)
  obtain ⟨d, more, rfl⟩ := List.exists_cons_of_ne_nil nonempty
  refine ⟨d, rfl, Bool.eq_false_iff.mpr ?_⟩
  intro white
  cases passed : fault.ahead with
  | nil =>
    -- An element that starts with a blank is a blank.
    rw [passed] at split
    obtain ⟨rfl, rfl⟩ := List.cons.inj split
    rw [(First.blank white).first_eq] at refused
    cases refused
  | cons x read =>
    obtain ⟨starts, scanned⟩ := scan_of_ahead_ne_nil refused (by simp [passed])
    rw [passed] at split
    obtain ⟨rfl, rfl⟩ := List.cons.inj split
    obtain ⟨found, same⟩ := Number.exists_found_of_scan starts white scanned passed
    exact other found same

/-- A scan is refused at a character that is no blank, with that exception. -/
theorem Lexer.exists_not_isBlank_of_error {lexer : Lexer} {source file : String} {error : Error}
    (failed : (lexer.tokenize source file).result = .error error)
    (other : ∀ found, error.cause ≠ .numberMustEndNumeric found) :
    ∃ d, source.toList[error.position.offset]? = some d ∧ Text.isBlank d = false := by
  obtain ⟨elements, fault, cut, rfl⟩ := exists_cut_of_error failed
  obtain ⟨c, rest, split, refused⟩ := cut.exists_first_of_some
  obtain ⟨d, here, notBlank⟩ := Element.exists_not_isBlank_of_first refused other
  have place : (fault.errorAt ((Position.start file).past (elements.flatMap Element.text))
      ).position.offset = (elements.flatMap Element.text).length + fault.ahead.length := by
    simp [Position.start]
  refine ⟨d, ?_, notBlank⟩
  rw [place, split, List.getElem?_append_right (Nat.le_add_right _ _), Nat.add_sub_cancel_left,
    ← here, List.head?_drop]

/-! ## The character above the caret -/

/-- `cause.Marks source offset row caret`: the column `caret` of the shown line `row` is where a
cause that is met at `offset` of `source` points to. It holds the character at that place, except
that a number which must not end there ends in the column before it. -/
def Cause.Marks (source : List Char) (offset : Nat) (row : List Char) (caret : Nat) : Cause → Prop
  | numberMustEndNumeric found => ∃ left, caret = left + 1 ∧ row[left]? = some found
  | _ => ∃ c, source[offset]? = some c ∧ row[caret]? = some c

theorem Cause.marks_of_ne {source row : List Char} {offset caret : Nat} {cause : Cause} {c : Char}
    (other : ∀ found, cause ≠ .numberMustEndNumeric found) (here : source[offset]? = some c)
    (above : row[caret]? = some c) : cause.Marks source offset row caret := by
  cases cause with
  | numberMustEndNumeric found => exact absurd rfl (other found)
  | _ => exact ⟨c, here, above⟩

/-- **The caret points at the culprit.**  A diagnostic of a place at a character that is no blank
ends with a picture in which the caret is below that character. A diagnostic of a failed scan always
ends with a picture, which shows the number of the line that the error is on, and in which the caret
is below the character that the scan was refused at, or behind the end of a number that must not end
there. -/
theorem caret_below_culprit :
    (∀ (error : Error) (source : String) (c : Char),
      source.toList[error.position.offset]? = some c → Text.isBlank c = false →
      ∃ top middle bottom caret,
        Diagnostic.Pictured (Diagnostic.render error source).toList top middle bottom caret ∧
        middle[caret]? = some c) ∧
    ∀ (lexer : Lexer) (source file : String) (error : Error),
      (lexer.tokenize source file).result = .error error →
      (∃ line, Line.at? source.toList error.position.offset = some line) ∧
      ∃ top middle bottom caret,
        Diagnostic.Pictured (Diagnostic.render error source).toList top middle bottom caret ∧
        Text.decimalDigits (1 + (source.toList.take error.position.offset).count '\n') ++ [' ', '|']
          <+: middle ∧
        error.cause.Marks source.toList error.position.offset middle caret := by
  refine ⟨?_, ?_⟩
  · intro error source c here notBlank
    obtain ⟨within, -⟩ := List.getElem?_eq_some_iff.mp here
    obtain ⟨line, found, shows⟩ := Line.exists_at? (Nat.le_of_lt within)
    have above := Diagnostic.getElem?_sourceRow (Text.decimalDigits error.position.line)
      (shows.getElem?_text here) notBlank
    exact ⟨_, _, _, _, Diagnostic.pictured_of_at? found shows.newline_notMem, above.2⟩
  · intro lexer source file error failed
    have located := located_of_error failed
    obtain ⟨line, found, shows⟩ := Line.exists_at? located.offset_le
    refine ⟨⟨line, found⟩, _, _, _, _, Diagnostic.pictured_of_at? found shows.newline_notMem, ?_, ?_⟩
    · rw [← located.line_eq]
      exact Diagnostic.number_isPrefix_sourceRow _ line
    · by_cases ending : ∃ last, error.cause = .numberMustEndNumeric last
      · obtain ⟨last, same⟩ := ending
        have evident := (evident_of_tokenize lexer source file error failed).2
        rw [same] at evident ⊢
        have notBlank := Number.not_isBlank_of_mem_ends evident.2
        have notNewline : last ≠ '\n' := by
          rintro rfl
          exact absurd notBlank (by decide)
        obtain ⟨left, column, before⟩ := shows.exists_left evident.1 notNewline
        obtain ⟨behind, above⟩ := Diagnostic.getElem?_sourceRow
          (Text.decimalDigits error.position.line) before notBlank
        exact ⟨_, by rw [column, Nat.succ_sub behind]; rfl, above⟩
      · have other : ∀ last, error.cause ≠ .numberMustEndNumeric last := not_exists.mp ending
        obtain ⟨d, here, notBlank⟩ := Lexer.exists_not_isBlank_of_error failed other
        have above := Diagnostic.getElem?_sourceRow (Text.decimalDigits error.position.line)
          (shows.getElem?_text here) notBlank
        exact Cause.marks_of_ne other here above.2

/-- A bar in the source, at a place that claims another line, and a number that ends in a point before
a blank that is not shown. -/
theorem caret_below_culprit_at_bar_and_point :
    ("ab\n\t x | y".toList[7]? = some '|' ∧ ∃ top middle bottom caret,
      Diagnostic.Pictured
        (Diagnostic.render ⟨.unexpectedToken "|", ⟨7, 12, "s"⟩⟩ "ab\n\t x | y").toList
        top middle bottom caret ∧ middle[caret]? = some '|') ∧
    ((Lexer.new true).tokenize "a\n\t1. " "s").result =
        .error ⟨.numberMustEndNumeric '.', ⟨5, 2, "s"⟩⟩ ∧
      ∃ top middle bottom caret,
        Diagnostic.Pictured
          (Diagnostic.render ⟨.numberMustEndNumeric '.', ⟨5, 2, "s"⟩⟩ "a\n\t1. ").toList
          top middle bottom caret ∧
        ['2', ' ', '|'] <+: middle ∧ ∃ left, caret = left + 1 ∧ middle[left]? = some '.' := by
  have cut : Cut true ['a', '\n', '\t', '1', '.', ' ']
      [.verbatim .identifierName ['a'], .blank '\n', .blank '\t']
      (some ⟨['1', '.'], .numberMustEndNumeric '.'⟩) :=
    .moved rfl rfl (.moved rfl rfl (.moved rfl rfl (.failed rfl)))
  have failed : ((Lexer.new true).tokenize "a\n\t1. " "s").result =
      .error ⟨.numberMustEndNumeric '.', ⟨5, 2, "s"⟩⟩ :=
    @Lexer.result_tokenize_of_cut (.new true) "a\n\t1. " _ _ cut "s"
  exact ⟨⟨rfl, caret_below_culprit.1 _ "ab\n\t x | y" _ rfl (by decide)⟩, failed,
    (caret_below_culprit.2 (.new true) _ _ _ failed).2⟩

end Lexeme
