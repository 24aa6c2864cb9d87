import Mathlib
import Lexeme.Line

/-!
# The line of a place

Which line `Line.at?` finds: the lines of a source tile it, and the walk stops at the line that the
place is on.

## Main Definitions

* `Line.Shows` — a line of a text, found by the walk
* `Line.Between` — a line of a source, said by what comes before and after it

## Design Notes

The walk keeps a number and an offset that belong to the part of the source it has left behind, so
the statement about it is about any text with any number and offset before it, and its induction
takes the text line by line.

`Between` leaves one place open: behind a final line end a line starts that has no characters, and
the place would also fit the end of the line before it. The number tells them apart, since it counts
all line ends before the place (`Between.before_eq`).
-/

namespace Lexeme.Line

/-- `line` is the line of the place before which `offset` characters of `text` stand, when the
first line of `text` has the number `number`. -/
structure Shows (line : Line) (number : Nat) (text : List Char) (offset : Nat) : Prop where
  /-- The line is cut out of the text at line ends, and the place is before one of its characters or
  at the end of a last line that nothing closes. -/
  exists_split : ∃ before after, text = before ++ line.text ++ after ∧
    before.length + line.column = offset ∧
    (before = [] ∨ before.getLast? = some '\n') ∧
    (after = [] ∨ line.text.getLast? = some '\n') ∧
    (line.column < line.text.length ∨
      (line.column = line.text.length ∧ after = [] ∧ '\n' ∉ line.text)) ∧
    line.number = number + before.count '\n'
  /-- Only the last character of a line may be a line end. -/
  newline_notMem : '\n' ∉ line.text.dropLast

/-- A text has no line end, or a first one. -/
theorem notMem_or_exists_split (text : List Char) :
    '\n' ∉ text ∨ ∃ body rest, text = body ++ '\n' :: rest ∧ '\n' ∉ body := by
  by_cases mem : '\n' ∈ text
  · exact .inr (List.eq_append_cons_of_mem mem)
  · exact .inl mem

/-- One step of the walk, by the characters between the start of the line and the place. -/
theorem find_cons (offset number start : Nat) (line : List Char) (lines : List (List Char)) :
    find (start + offset) number start (line :: lines) =
      if offset < line.length ∨ (offset = line.length ∧ line.getLast? ≠ some '\n') then
        some ⟨number, line, offset⟩
      else find (start + offset) (number + 1) (start + line.length) lines := by
  have column : start + offset - start = offset := Nat.add_sub_cancel_left ..
  have here : (start ≤ start + offset ∧ start + offset < start + line.length) ∨
      (start + offset = start + line.length ∧ line.getLast? ≠ some '\n') ↔
        offset < line.length ∨ (offset = line.length ∧ line.getLast? ≠ some '\n') := by
    rw [Nat.add_lt_add_iff_left, Nat.add_right_inj, and_iff_right (Nat.le_add_right start offset)]
  rw [find, column]
  simp only [here]

/-- A text without line ends is one line, up to its end. -/
theorem shows_of_notMem {text : List Char} (inside : '\n' ∉ text) (number : Nat) {offset : Nat}
    (within : offset ≤ text.length) : Shows ⟨number, text, offset⟩ number text offset := by
  refine ⟨⟨[], [], by simp, by simp, .inl rfl, .inl rfl, ?_, rfl⟩, ?_⟩
  · exact (Nat.lt_or_eq_of_le within).imp_right fun atEnd => ⟨atEnd, rfl, inside⟩
  · exact fun mem => inside (List.dropLast_subset text mem)

/-- The first line of a text, up to its line end. -/
theorem shows_first {body : List Char} (inside : '\n' ∉ body) (rest : List Char) (number : Nat)
    {offset : Nat} (within : offset < (body ++ ['\n']).length) :
    Shows ⟨number, body ++ ['\n'], offset⟩ number (body ++ '\n' :: rest) offset := by
  refine ⟨⟨[], rest, by simp, by simp, .inl rfl, .inr ?_, .inl within, rfl⟩, ?_⟩
  · exact List.getLast?_concat
  · simpa using inside

/-- A line of what follows a line end is a line of the whole text. -/
theorem Shows.after_newline {line : Line} {body rest : List Char} {number offset : Nat}
    (inside : '\n' ∉ body) (shows : line.Shows (number + 1) rest offset) :
    line.Shows number (body ++ '\n' :: rest) ((body ++ ['\n']).length + offset) := by
  obtain ⟨⟨before, after, rfl, place, opened, closed, column, count⟩, newline_notMem⟩ := shows
  refine ⟨⟨body ++ '\n' :: before, after, by simp, ?_, .inr ?_, closed, column, ?_⟩,
    newline_notMem⟩
  · rw [← place, List.length_append, List.length_append, List.length_cons, List.length_singleton]
    omega
  · rcases opened with rfl | last
    · exact List.getLast?_concat
    · rw [List.getLast?_append, List.getLast?_cons, last]
      rfl
  · have none : body.count '\n' = 0 := List.count_eq_zero.mpr inside
    rw [List.count_append, List.count_cons_self, none, count]
    omega

/-- **The walk along the lines** of a text finds nothing past its end, and otherwise the line that
the place is on. -/
theorem find_split (text : List Char) (number start offset : Nat) :
    (text.length < offset → find (start + offset) number start (split text) = none) ∧
    (offset ≤ text.length → ∃ line, find (start + offset) number start (split text) = some line ∧
      line.Shows number text offset) := by
  rcases notMem_or_exists_split text with inside | ⟨body, rest, rfl, inside⟩
  · -- Nothing closes the only line, so its end is on it too.
    by_cases empty : text = []
    · subst empty
      constructor
      · intro past
        rw [split_nil, find, if_neg (by simp only [List.length_nil] at past; omega)]
      · intro within
        obtain rfl : offset = 0 := Nat.le_zero.mp within
        exact ⟨⟨number, [], 0⟩, by simp [find], shows_of_notMem inside number within⟩
    · have unclosed : text.getLast? ≠ some '\n' := fun last =>
        inside (List.mem_of_getLast? last)
      rw [split_of_notMem inside empty, find_cons]
      constructor
      · intro past
        rw [if_neg (by omega), find, if_neg (by omega)]
      · intro within
        have here : offset < text.length ∨ (offset = text.length ∧ text.getLast? ≠ some '\n') :=
          (Nat.lt_or_eq_of_le within).imp_right fun atEnd => ⟨atEnd, unclosed⟩
        rw [if_pos here]
        exact ⟨_, rfl, shows_of_notMem inside number within⟩
  · -- The place is on the first line, which is closed, or on a line of `rest`.
    have closed : (body ++ ['\n']).getLast? = some '\n' := List.getLast?_concat
    have length : (body ++ '\n' :: rest).length = (body ++ ['\n']).length + rest.length := by
      rw [← List.length_append, List.append_assoc, List.singleton_append]
    rw [split_append_newline inside, find_cons, length]
    by_cases within : offset < (body ++ ['\n']).length
    · rw [if_pos (.inl within)]
      exact ⟨fun past => by omega, fun _ => ⟨_, rfl, shows_first inside rest number within⟩⟩
    · have later : ¬(offset < (body ++ ['\n']).length ∨
          (offset = (body ++ ['\n']).length ∧ (body ++ ['\n']).getLast? ≠ some '\n')) := by
        rintro (here | ⟨-, unclosed⟩)
        · exact within here
        · exact unclosed closed
      obtain ⟨further, rfl⟩ := Nat.exists_eq_add_of_le (Nat.le_of_not_lt within)
      have shorter : rest.length < (body ++ '\n' :: rest).length := by simp; omega
      obtain ⟨past, found⟩ :=
        find_split rest (number + 1) (start + (body ++ ['\n']).length) further
      rw [if_neg later, ← Nat.add_assoc]
      constructor
      · intro beyond
        exact past (Nat.lt_of_add_lt_add_left beyond)
      · intro within
        obtain ⟨line, found, shows⟩ := found (Nat.le_of_add_le_add_left within)
        exact ⟨line, found, shows.after_newline inside⟩
termination_by text.length

/-- A place has a line unless it is past the end of the source. -/
theorem at?_eq_none_iff (source : List Char) (offset : Nat) :
    at? source offset = none ↔ source.length < offset := by
  obtain ⟨past, found⟩ := find_split source 1 0 offset
  rw [Nat.zero_add] at past found
  constructor
  · intro missing
    apply Nat.lt_of_not_le
    intro within
    obtain ⟨line, some, -⟩ := found within
    rw [at?, some] at missing
    cases missing
  · exact past

/-- Up to its end a source has a line at every place. -/
theorem exists_at? {source : List Char} {offset : Nat} (within : offset ≤ source.length) :
    ∃ line, at? source offset = some line ∧ line.Shows 1 source offset := by
  have found := (find_split source 1 0 offset).2 within
  rwa [Nat.zero_add] at found

/-- The number of a line counts the line ends before the place. -/
theorem Shows.number_eq {line : Line} {number offset : Nat} {text : List Char}
    (shows : line.Shows number text offset) :
    line.number = number + (text.take offset).count '\n' := by
  obtain ⟨⟨before, after, rfl, rfl, -, -, column, count⟩, newline_notMem⟩ := shows
  have inside : '\n' ∉ (line.text ++ after).take line.column := by
    rcases column with inLine | ⟨atEnd, rfl, absent⟩
    · rw [List.take_append_of_le_length (Nat.le_of_lt inLine)]
      intro mem
      rw [List.dropLast_eq_take] at newline_notMem
      exact newline_notMem (List.take_subset_take_left line.text (by omega) mem)
    · rw [atEnd, List.append_nil, List.take_length]
      exact absent
  rw [List.append_assoc, List.take_length_add_append, List.count_append, count,
    List.count_eq_zero.mpr inside, Nat.add_zero]

/-! ## The line between what comes before and after it -/

/-- `line` is what stands in `source` between `before` and `after`, cut out at line ends, and the
place before which `offset` characters stand is in it. -/
structure Between (line : Line) (source before after : List Char) (offset : Nat) : Prop where
  /-- The three parts are the source. -/
  source_eq : source = before ++ line.text ++ after
  /-- The column counts from the start of the line. -/
  offset_eq : before.length + line.column = offset
  /-- The line starts behind a line end, or with the source. -/
  opened : before = [] ∨ before.getLast? = some '\n'
  /-- Only the last character of the line may be a line end. -/
  newline_notMem : '\n' ∉ line.text.dropLast
  /-- The line stops behind a line end, or with the source. -/
  closed : after = [] ∨ line.text.getLast? = some '\n'
  /-- The place is before a character of the line, or at the end of the source. -/
  column_lt : line.column < line.text.length ∨ offset = source.length
  /-- The number counts the line ends before the line. -/
  number_eq : line.number = 1 + before.count '\n'
  /-- These are the line ends before the place. -/
  count_eq : before.count '\n' = (source.take offset).count '\n'

/-- The line that is found stands between what comes before and after it. -/
theorem Shows.exists_between {line : Line} {source : List Char} {offset : Nat}
    (shows : line.Shows 1 source offset) : ∃ before after, line.Between source before after offset := by
  have counted := shows.number_eq
  obtain ⟨⟨before, after, rfl, place, opened, closed, column, number⟩, inside⟩ := shows
  refine ⟨before, after, rfl, place, opened, inside, closed, ?_, number, ?_⟩
  · refine column.imp_right ?_
    rintro ⟨atEnd, rfl, -⟩
    rw [← place, atEnd, List.append_nil, List.length_append]
  · rw [number] at counted
    exact Nat.add_left_cancel counted

/-- A text that is opened like a line does not go on behind another one with as many line ends. -/
theorem eq_of_isPrefix_of_count {before before' : List Char} (starts : before <+: before')
    (opened : before' = [] ∨ before'.getLast? = some '\n')
    (same : before.count '\n' = before'.count '\n') : before = before' := by
  obtain ⟨between, rfl⟩ := starts
  rw [List.count_append, Nat.left_eq_add, List.count_eq_zero] at same
  cases eq : between.getLast? with
  | none => rw [List.getLast?_eq_none_iff.mp eq, List.append_nil]
  | some c =>
    -- The last character between the two is the line end that opens the second one.
    rw [List.getLast?_append, eq, Option.some_or] at opened
    rcases opened with empty | last
    · rw [(List.append_eq_nil_iff.mp empty).2] at eq
      cases eq
    · cases last
      exact absurd (List.mem_of_getLast? eq) same

/-- A text that is closed like a line does not go on as a longer line. -/
theorem eq_of_isPrefix_of_dropLast {text text' after : List Char} (starts : text <+: text')
    (follows : text' <+: text ++ after) (closed : after = [] ∨ text.getLast? = some '\n')
    (inside : '\n' ∉ text'.dropLast) : text = text' := by
  obtain ⟨more, rfl⟩ := starts
  cases more with
  | nil => exact (List.append_nil text).symm
  | cons c more =>
    rcases closed with rfl | last
    · exact absurd follows.length_le (by simp)
    · rw [List.dropLast_append_of_ne_nil (List.cons_ne_nil c more)] at inside
      exact absurd (List.mem_append_left _ (List.mem_of_getLast? last)) inside

section Between

variable {line line' : Line} {source before before' after after' : List Char} {offset : Nat}

/-- A line starts behind the last line end before the place, so nothing else comes before it. -/
theorem Between.before_eq (first : line.Between source before after offset)
    (second : line'.Between source before' after' offset) : before = before' := by
  have starts : before <+: source := ⟨_, (first.source_eq.trans (List.append_assoc ..)).symm⟩
  have starts' : before' <+: source := ⟨_, (second.source_eq.trans (List.append_assoc ..)).symm⟩
  have same := first.count_eq.trans second.count_eq.symm
  rcases List.prefix_or_prefix_of_prefix starts starts' with shorter | shorter
  · exact eq_of_isPrefix_of_count shorter second.opened same
  · exact (eq_of_isPrefix_of_count shorter first.opened same.symm).symm

/-- A line stops behind the first line end from its start, so nothing else is in it. -/
theorem Between.text_eq (first : line.Between source before after offset)
    (second : line'.Between source before after' offset) : line.text = line'.text := by
  have rest : line.text ++ after = line'.text ++ after' := by
    have whole := first.source_eq.symm.trans second.source_eq
    rw [List.append_assoc, List.append_assoc] at whole
    exact List.append_cancel_left whole
  have starts : line.text <+: line.text ++ after := List.prefix_append _ _
  have starts' : line'.text <+: line.text ++ after := rest ▸ List.prefix_append _ _
  rcases List.prefix_or_prefix_of_prefix starts starts' with shorter | shorter
  · exact eq_of_isPrefix_of_dropLast shorter starts' first.closed second.newline_notMem
  · exact (eq_of_isPrefix_of_dropLast shorter (rest ▸ starts) second.closed
      first.newline_notMem).symm

/-- **A place is on one line only.** -/
theorem Between.unique (first : line.Between source before after offset)
    (second : line'.Between source before' after' offset) : line = line' := by
  obtain rfl := first.before_eq second
  have text := first.text_eq second
  have column : line.column = line'.column :=
    Nat.add_left_cancel (first.offset_eq.trans second.offset_eq.symm)
  have number : line.number = line'.number := first.number_eq.trans second.number_eq.symm
  cases line
  cases line'
  cases text
  cases column
  cases number
  rfl

end Between

/-- **Line lookup.**  Past its end a source has no line. At any other place it has the line that
stands between what comes before and after it, and no other one does. -/
theorem at?_between (source : String) (offset : Nat) :
    (at? source.toList offset = none ↔ source.length < offset) ∧
    (offset ≤ source.length → ∃ line before after, at? source.toList offset = some line ∧
      line.Between source.toList before after offset) ∧
    ∀ line before after, line.Between source.toList before after offset →
      at? source.toList offset = some line := by
  have exists_between (within : offset ≤ source.length) : ∃ line before after,
      at? source.toList offset = some line ∧ line.Between source.toList before after offset := by
    rw [← String.length_toList] at within
    obtain ⟨line, found, shows⟩ := exists_at? within
    obtain ⟨before, after, between⟩ := shows.exists_between
    exact ⟨line, before, after, found, between⟩
  refine ⟨?_, exists_between, ?_⟩
  · rw [← String.length_toList]
    exact at?_eq_none_iff source.toList offset
  · intro line before after between
    have within : offset ≤ source.length := by
      have length := congrArg List.length between.source_eq
      simp only [List.length_append, String.length_toList] at length
      have place := between.offset_eq
      rcases between.column_lt with inside | last
      · omega
      · rw [last, String.length_toList]
    obtain ⟨line', before', after', found, between'⟩ := exists_between within
    rw [found, between.unique between']

/-- The empty line in the middle of a source, and the one behind its last line end. -/
theorem at?_between_of_empty_lines :
    (∃ line before after, at? "a\n\nb\n".toList 2 = some line ∧
      line.Between "a\n\nb\n".toList before after 2) ∧
    at? "a\n\nb\n".toList 2 = some ⟨2, ['\n'], 0⟩ ∧
    at? "a\n\nb\n".toList 5 = some ⟨4, [], 0⟩ := by
  have middle : Between ⟨2, ['\n'], 0⟩ "a\n\nb\n".toList ['a', '\n'] ['b', '\n'] 2 :=
    ⟨rfl, rfl, .inr rfl, by simp, .inr rfl, .inl (by decide), rfl, rfl⟩
  have last : Between ⟨4, [], 0⟩ "a\n\nb\n".toList ['a', '\n', '\n', 'b', '\n'] [] 5 :=
    ⟨rfl, rfl, .inr rfl, by simp, .inl rfl, .inr rfl, rfl, rfl⟩
  obtain ⟨-, found, -⟩ := at?_between "a\n\nb\n" 2
  exact ⟨found (by decide), (at?_between _ 2).2.2 _ _ _ middle, (at?_between _ 5).2.2 _ _ _ last⟩

end Lexeme.Line
