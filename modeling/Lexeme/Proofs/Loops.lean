import Mathlib
import Lexeme.Proofs.Boundaries

/-!
# Loops inside elements

The rules for elements read whole stretches of text: all that is alphanumeric, all up to the end of
a line, all up to a delimiter. A cursor can read the same stretches one character at a time, going
round a loop. Here each of these loops is said round by round and shown to end, where the stretch
ends.

## Main Definitions

* `Loop.Round` — what one round of a loop comes to
* `Loop.Ends` — a loop is left after a number of rounds, with a result
* `Loop.Reaches` — a loop comes to a state
* `Element.wordRound`, `Comment.lineRound`, `Comment.blockRound`, `Symbol.pointRound`,
  `Quoted.round`, `Number.round` — the loops
* `Cursor.LoopsEnd` — all of them end at a cursor, and come to what the rules say

## Design Notes

A round moves the cursor by `Cursor.advance` or `Cursor.next`, which stay at the end of the source,
so that a round is another one does not say that it gets anywhere. Every loop ends because a round
that is not the last one has seen a character: the inductions are on the text that is left, and the
number of rounds is the number of characters that they have seen.

A loop that starts with `Cursor.next` passes the character under the cursor unseen; its induction is
on the text after that character.
-/

namespace Lexeme

/-! ## Rounds -/

namespace Loop

/-- What one round of a loop comes to. -/
inductive Round (σ ρ : Type)
  /-- Another round, from a further state. -/
  | again (next : σ)
  /-- The end of the loop. -/
  | leave (result : ρ)

/-- `Ends round s n r`: a loop that is entered in the state `s` goes round `n` times and is then
left with `r`. -/
inductive Ends {σ ρ : Type} (round : σ → Round σ ρ) : σ → Nat → ρ → Prop
  | leave {s : σ} {r : ρ} (leaves : round s = .leave r) : Ends round s 0 r
  | again {s next : σ} {n : Nat} {r : ρ} (goesOn : round s = .again next)
      (later : Ends round next n r) : Ends round s (n + 1) r

/-- The same within a number of rounds. -/
def EndsWithin {σ ρ : Type} (round : σ → Round σ ρ) (bound : Nat) (s : σ) (r : ρ) : Prop :=
  ∃ n ≤ bound, Ends round s n r

/-- `Reaches round start s`: a loop that is entered in the state `start` comes to the state `s`. -/
inductive Reaches {σ ρ : Type} (round : σ → Round σ ρ) (start : σ) : σ → Prop
  | start : Reaches round start start
  | again {s next : σ} (earlier : Reaches round start s) (goesOn : round s = .again next) :
      Reaches round start next

/-- A cursor and the characters that a loop has taken. -/
structure Taking where
  /-- How far the loop has come. -/
  cursor : Cursor
  /-- What it has taken. -/
  taken : List Char

end Loop

open Loop

/-- Counting line ends one character at a time. -/
theorem add_count_newline_cons (line : Nat) (c : Char) (text : List Char) :
    line + (c :: text).count '\n' =
      (if c = '\n' then line + 1 else line) + text.count '\n' := by
  by_cases newline : c = '\n'
  · rw [newline, List.count_cons_self, if_pos rfl, Nat.add_right_comm, Nat.add_assoc]
  · rw [List.count_cons_of_ne newline, if_neg newline]

/-! ## Words -/

namespace Element

/-- A round of the loop that reads a word. -/
def wordRound (s : Taking) : Round Taking Taking :=
  match s.cursor.current with
  | none => .leave s
  | some c =>
    if Text.isAlphanumeric c then .again ⟨s.cursor.advance, s.taken ++ [c]⟩ else .leave s

/-- The loop takes the alphanumeric characters at the cursor. -/
theorem ends_wordRound (cursor : Cursor) {rest : List Char} (left : cursor.rest = rest)
    (taken : List Char) :
    Ends wordRound ⟨cursor, taken⟩ (rest.takeWhile Text.isAlphanumeric).length
      ⟨cursor.skip (rest.takeWhile Text.isAlphanumeric).length,
        taken ++ rest.takeWhile Text.isAlphanumeric⟩ := by
  induction rest generalizing cursor taken with
  | nil =>
    rw [List.takeWhile_nil, List.append_nil]
    exact .leave (by simp [wordRound, Cursor.current, left])
  | cons c rest ih =>
    by_cases alphanumeric : Text.isAlphanumeric c = true
    · have later := ih cursor.advance (by simp [left]) (taken ++ [c])
      rw [List.append_assoc, List.singleton_append] at later
      rw [List.takeWhile_cons_of_pos alphanumeric]
      exact .again (by simp [wordRound, Cursor.current, left, alphanumeric]) later
    · rw [List.takeWhile_cons_of_neg alphanumeric, List.append_nil]
      exact .leave (by simp [wordRound, Cursor.current, left, alphanumeric])

/-- A word is read by its loop: its first letter is alphanumeric, too. -/
theorem text_word {c : Char} (letter : Text.isAlphabetic c = true) (rest : List Char) :
    (word c rest).text = (c :: rest).takeWhile Text.isAlphanumeric :=
  (List.takeWhile_cons_of_pos (Text.isAlphanumeric_of_isAlphabetic letter)).symm

end Element

/-! ## Comments -/

namespace Comment

/-- A round of the loop that skips a line comment. -/
def lineRound (cursor : Cursor) : Round Cursor Cursor :=
  match cursor.next with
  | (none, cursor) => .leave cursor
  | (some c, cursor) => if c = '\n' then .leave cursor else .again cursor

/-- The loop stops at the end of the line. -/
theorem ends_lineRound (cursor : Cursor) {text : List Char} (beyond : cursor.rest.tail = text) :
    Ends lineRound cursor (line text).length (cursor.skip ((line text).length + 1)) := by
  induction text generalizing cursor with
  | nil => exact .leave (by simp [lineRound, Cursor.next, Cursor.current, beyond, line])
  | cons c text ih =>
    by_cases newline : c = '\n'
    · subst newline
      exact .leave (by simp [lineRound, Cursor.next, Cursor.current, beyond, line])
    · have later := ih cursor.advance (by simp [beyond])
      have whole : line (c :: text) = c :: line text :=
        List.takeWhile_cons_of_pos (decide_eq_true newline)
      rw [whole]
      exact .again (by simp [lineRound, Cursor.next, Cursor.current, beyond, newline]) later

/-- A cursor and the line it is on. -/
structure Skipping where
  /-- How far the loop has come. -/
  cursor : Cursor
  /-- The line the cursor is on. -/
  line : Nat

/-- A round of the loop that skips a block comment, entered at the star of its opening. There is no
result if the source is used up. -/
def blockRound (s : Skipping) : Round Skipping (Option Skipping) :=
  match s.cursor.next with
  | (none, _) => .leave none
  | (some c, cursor) =>
    if c = '*' ∧ cursor.peek = some '/' then .leave (some ⟨cursor.advance.advance, s.line⟩)
    else .again ⟨cursor, if c = '\n' then s.line + 1 else s.line⟩

/-- The loop stops behind the first closing mark after the opening, counting the line ends before
it. -/
theorem ends_blockRound (cursor : Cursor) {text : List Char} {n : Nat}
    (beyond : cursor.rest.tail = text) (found : blockLength? text = some n) (line : Nat) :
    Ends blockRound ⟨cursor, line⟩ n
      (some ⟨cursor.skip (n + 3), line + (text.take n).count '\n'⟩) := by
  induction text generalizing cursor n line with
  | nil => cases found
  | cons c text ih =>
    rw [blockLength?_cons] at found
    split at found
    · next closing =>
      cases found
      exact .leave (by simp [blockRound, Cursor.next, Cursor.current, Cursor.peek, beyond, closing])
    · next notClosing =>
      obtain ⟨m, later, rfl⟩ := Option.map_eq_some_iff.mp found
      -- The round has counted `c`; the loop goes on counting from there.
      have later := ih cursor.advance (by simp [beyond]) later
        (if c = '\n' then line + 1 else line)
      rw [List.take_succ_cons, add_count_newline_cons]
      exact .again
        (by simp [blockRound, Cursor.next, Cursor.current, Cursor.peek, beyond, notClosing]) later

/-- Without a closing mark the loop stops at the end of the source. -/
theorem ends_blockRound_of_none (cursor : Cursor) {text : List Char}
    (beyond : cursor.rest.tail = text) (none : blockLength? text = none) (line : Nat) :
    Ends blockRound ⟨cursor, line⟩ text.length .none := by
  induction text generalizing cursor line with
  | nil => exact .leave (by simp [blockRound, Cursor.next, Cursor.current, beyond])
  | cons c text ih =>
    rw [blockLength?_cons] at none
    split at none
    · cases none
    · next notClosing =>
      have later := ih cursor.advance (by simp [beyond])
        (Option.map_eq_none_iff.mp none) (if c = '\n' then line + 1 else line)
      exact .again
        (by simp [blockRound, Cursor.next, Cursor.current, Cursor.peek, beyond, notClosing]) later

end Comment

/-! ## Points -/

namespace Symbol

/-- A round of the loop that reads points, of which it takes three at most. -/
def pointRound (s : Taking) : Round Taking Taking :=
  if s.taken.length < 3 ∧ s.cursor.current = some '.' then
    .again ⟨s.cursor.advance, s.taken ++ ['.']⟩
  else .leave s

/-- The loop takes the points at the cursor until it has three. -/
theorem ends_pointRound (cursor : Cursor) {k : Nat} {rest : List Char}
    (left : cursor.rest = List.replicate k '.' ++ rest) (taken : List Char)
    (room : taken.length + k ≤ 3) (stop : taken.length + k = 3 ∨ rest.head? ≠ some '.') :
    Ends pointRound ⟨cursor, taken⟩ k ⟨cursor.skip k, taken ++ List.replicate k '.'⟩ := by
  induction k generalizing cursor taken with
  | zero =>
    rw [List.replicate_zero, List.append_nil]
    refine .leave (if_neg ?_)
    rintro ⟨few, point⟩
    rw [Cursor.current, left] at point
    rcases stop with full | other
    · exact absurd full (Nat.ne_of_lt few)
    · exact other point
  | succ k ih =>
    rw [List.replicate_succ, List.cons_append] at left
    have length : (taken ++ ['.']).length + k = taken.length + (k + 1) := by simp; omega
    have later := ih cursor.advance (by simp [left]) (taken ++ ['.'])
      (length ▸ room) (length ▸ stop)
    rw [List.append_assoc, List.singleton_append] at later
    have few : taken.length < 3 := by omega
    exact .again (if_pos ⟨few, by rw [Cursor.current, left]; rfl⟩) later

/-- A text starts with a number of points, which is a given number or ends before another
character. -/
theorem exists_points (most : Nat) (text : List Char) :
    ∃ k ≤ most, ∃ rest, text = List.replicate k '.' ++ rest ∧
      (k = most ∨ rest.head? ≠ some '.') := by
  induction most generalizing text with
  | zero => exact ⟨0, Nat.le_refl 0, text, rfl, .inl rfl⟩
  | succ most ih =>
    by_cases point : text.head? = some '.'
    · obtain ⟨rest, rfl⟩ := List.head?_eq_some_iff.mp point
      obtain ⟨k, few, after, rfl, stop⟩ := ih rest
      exact ⟨k + 1, Nat.succ_le_succ few, after, rfl, stop.imp_left (congrArg (· + 1))⟩
    · exact ⟨0, Nat.zero_le _, text, rfl, .inr point⟩

/-- Up to three points are one symbol, if they are three or no other one follows. -/
theorem read?_points {k : Nat} {rest : List Char} (few : k ≤ 2)
    (stop : k = 2 ∨ rest.head? ≠ some '.') :
    read? ('.' :: List.replicate k '.' ++ rest) = some ('.' :: List.replicate k '.', .token) := by
  have mem : ('.' :: List.replicate k '.', Kind.token) ∈ table := by
    interval_cases k <;> decide
  refine read?_append mem fun d next => ?_
  rcases stop with rfl | other
  · simp [continuedBy, table, List.isPrefixOf]
  · have ne : d ≠ '.' := fun same => other (same ▸ next)
    interval_cases k <;> simp [continuedBy, table, List.isPrefixOf, ne]

end Symbol

/-! ## Quoted literals -/

namespace Quoted

/-- How far the loop of a quoted literal has come. -/
structure Stage where
  /-- The character looked at last. -/
  cursor : Cursor
  /-- The line after the characters taken. -/
  line : Nat
  /-- The characters taken. -/
  content : List Char

/-- A round of the loop that reads a quoted literal, entered at its opening delimiter. The result
says whether the closing delimiter has been met. -/
def round (d : Char) (s : Stage) : Round Stage (Bool × Stage) :=
  match s.cursor.next with
  | (none, cursor) => .leave (false, { s with cursor := cursor })
  | (some c, cursor) =>
    if c = d then .leave (true, { s with cursor := cursor })
    else .again ⟨cursor, if c = '\n' then s.line + 1 else s.line, s.content ++ [c]⟩

/-- The loop takes what comes before the next delimiter, counting its line ends. -/
theorem ends_round (cursor : Cursor) {text : List Char} (beyond : cursor.rest.tail = text)
    (d : Char) (line : Nat) (content : List Char) :
    Ends (round d) ⟨cursor, line, content⟩ (text.takeWhile (· ≠ d)).length
      (decide (d ∈ text), ⟨cursor.skip ((text.takeWhile (· ≠ d)).length + 1),
        line + (text.takeWhile (· ≠ d)).count '\n', content ++ text.takeWhile (· ≠ d)⟩) := by
  induction text generalizing cursor line content with
  | nil =>
    rw [List.takeWhile_nil, List.append_nil]
    exact .leave (by simp [round, Cursor.next, Cursor.current, beyond])
  | cons c text ih =>
    by_cases closing : c = d
    · subst closing
      rw [List.takeWhile_cons_of_neg (by simp), List.append_nil]
      exact .leave (by simp [round, Cursor.next, Cursor.current, beyond])
    · have later := ih cursor.advance (by simp [beyond])
        (if c = '\n' then line + 1 else line) (content ++ [c])
      have whole : (c :: text).takeWhile (· ≠ d) = c :: text.takeWhile (· ≠ d) :=
        List.takeWhile_cons_of_pos (decide_eq_true closing)
      have mem : decide (d ∈ c :: text) = decide (d ∈ text) := by simp [Ne.symm closing]
      rw [List.append_assoc, List.singleton_append] at later
      rw [whole, add_count_newline_cons, mem]
      exact .again (by simp [round, Cursor.next, Cursor.current, beyond, closing]) later

end Quoted

/-! ## Numbers -/

namespace Number

/-- How far the loop of a number has come. -/
structure Stage where
  /-- The character looked at. -/
  cursor : Cursor
  /-- The form that is known so far. -/
  form : Form
  /-- The character just passed. -/
  last : Option Char
  /-- The characters of the value taken so far. -/
  digits : List Char

/-- What the loop of a number comes to. -/
structure Exit where
  /-- Where the loop has stopped. -/
  cursor : Cursor
  /-- The characters of the value. -/
  digits : List Char
  /-- The form of the number, or why it is refused. -/
  outcome : Except Cause Form

/-- Ends the loop of a number where it stands. -/
def Stage.exit (s : Stage) (outcome : Except Cause Form) : Round Stage Exit :=
  .leave ⟨s.cursor, s.digits, outcome⟩

/-- Passes a character of a number, adding `digits` to its value. -/
def Stage.pass (s : Stage) (form : Form) (c : Char) (digits : List Char) : Round Stage Exit :=
  .again ⟨s.cursor.advance, form, some c, s.digits ++ digits⟩

/-- A round of the loop that reads a number. -/
def round (s : Stage) : Round Stage Exit :=
  match s.cursor.current with
  | none => s.exit (close s.form s.last)
  | some c =>
    if c = '_' then
      if s.cursor.peek = some '_' then s.exit (.error (.misplacedOrDuplicateSeparator true))
      else if s.last.any Char.isDigit && s.cursor.peek.any Char.isDigit then s.pass s.form c []
      else s.exit (.error (.misplacedOrDuplicateSeparator false))
    else if c = '.' then
      if s.cursor.peek = some '.' then s.exit (close s.form s.last)
      else match s.form with
        | .decimal => s.pass .float c [c]
        | .float => s.exit (.error .multipleFloatDots)
        | _ => s.exit (.error .floatOnBasePrefixedLiteral)
    else if c.isAlphanum then
      if s.form.accepts c then s.pass s.form c [c] else s.exit (.error (s.form.malformed c))
    else s.exit (close s.form s.last)

variable {c : Char} {rest : List Char}

/-- A round passes the next character exactly if `body` does, and ends the loop in the same way. -/
theorem round_cases {cursor : Cursor} (left : cursor.rest = c :: rest) (form : Form)
    (last : Option Char) (digits : List Char) :
    (∃ form', round ⟨cursor, form, last, digits⟩ =
        .again ⟨cursor.advance, form', some c, digits ++ [c].filter (· ≠ '_')⟩ ∧
      body form last (c :: rest) = (body form' (some c) rest).push c) ∨
    ∃ outcome, round ⟨cursor, form, last, digits⟩ = .leave ⟨cursor, digits, outcome⟩ ∧
      body form last (c :: rest) = ⟨[], outcome⟩ := by
  have current : cursor.current = some c := by rw [Cursor.current, left]; rfl
  have peek : cursor.peek = rest.head? := by rw [Cursor.peek, left]; rfl
  -- Both look at the same two characters, so the cases are the tests of either.
  rw [round, body.eq_def]
  simp only [current, peek]
  split
  · next separator =>
    subst separator
    split
    · exact .inr ⟨_, rfl, rfl⟩
    split
    · exact .inl ⟨form, rfl, rfl⟩
    · exact .inr ⟨_, rfl, rfl⟩
  next notSeparator =>
  have valued : [c].filter (· ≠ '_') = [c] := by simp [notSeparator]
  rw [valued]
  split
  · split
    · exact .inr ⟨_, rfl, rfl⟩
    cases form with
    | decimal => exact .inl ⟨.float, rfl, rfl⟩
    | _ => exact .inr ⟨_, rfl, rfl⟩
  split
  · split
    · exact .inl ⟨form, rfl, rfl⟩
    · exact .inr ⟨_, rfl, rfl⟩
  · exact .inr ⟨_, rfl, rfl⟩

/-- The loop passes what `body` passes, takes the characters of the value, and ends as `body`
does. -/
theorem ends_round (cursor : Cursor) (left : cursor.rest = rest) (form : Form) (last : Option Char)
    (digits : List Char) :
    Loop.Ends round ⟨cursor, form, last, digits⟩ (body form last rest).text.length
      ⟨cursor.skip (body form last rest).text.length,
        digits ++ (body form last rest).text.filter (· ≠ '_'), (body form last rest).outcome⟩ := by
  induction rest generalizing cursor form last digits with
  | nil =>
    have used : cursor.current = none := by rw [Cursor.current, left]; rfl
    rw [body, List.filter_nil, List.append_nil]
    exact .leave (by simp [round, used, Stage.exit])
  | cons c rest ih =>
    rcases round_cases left form last digits with ⟨form', goesOn, passed⟩ | ⟨outcome, leaves, ended⟩
    · have later := ih cursor.advance (by simp [left]) form' (some c)
        (digits ++ [c].filter (· ≠ '_'))
      rw [List.append_assoc, ← List.filter_append, List.singleton_append] at later
      rw [passed]
      exact .again goesOn later
    · rw [ended, List.filter_nil, List.append_nil]
      exact .leave leaves

end Number

/-! ## All loops -/

/-- Behind its content, and its closing delimiter if it has one, a quoted literal has been read. -/
theorem Quoted.cursor_read (cursor : Cursor) (line : Nat) (d : Char) :
    (read cursor line d).cursor =
      (cursor.skip ((cursor.rest.tail.takeWhile (· ≠ d)).length + 1)).advance := by
  rw [read, Scan.readAt, scan]
  dsimp only
  split
  · next closing =>
    have nonempty : cursor.rest ≠ [] := fun used => by simp [used] at closing
    obtain ⟨c, rest, left⟩ := List.exists_cons_of_ne_nil nonempty
    rw [Cursor.advance_skip, left]
    simp
  · next absent =>
    -- All is passed already, so the last step does nothing.
    rw [takeWhile_eq_self_of_notMem absent, Cursor.advance_of_rest_eq_nil]
    · cases left : cursor.rest with
      | nil => exact (Cursor.advance_of_rest_eq_nil left).symm
      | cons c rest => rfl
    · rw [Cursor.rest_skip, List.drop_eq_nil_iff, List.length_tail]
      omega

namespace Cursor

/-- The loops inside elements end at a cursor, each within as many rounds as there are characters
left, and come to what the rules say of the text there. -/
structure LoopsEnd (cursor : Cursor) (line : Nat) : Prop where
  /-- What is taken at a letter is the word there. -/
  word : ∃ s, EndsWithin Element.wordRound cursor.rest.length ⟨cursor, []⟩ s ∧
    ∀ c rest, cursor.rest = c :: rest → Text.isAlphabetic c = true →
      s = ⟨cursor.skip (Element.word c rest).text.length, (Element.word c rest).text⟩
  /-- A line comment is skipped up to the end of its line. -/
  lineComment : ∃ stop, EndsWithin Comment.lineRound cursor.rest.length cursor stop ∧
    ∀ c rest, cursor.rest = c :: rest → stop = cursor.skip (c :: Comment.line rest).length
  /-- A block comment is skipped, with its line ends counted, unless it is refused. -/
  blockComment : ∃ stop?,
    EndsWithin Comment.blockRound cursor.rest.length ⟨cursor.advance, line⟩ stop? ∧
    ∀ rest, cursor.rest = '/' :: '*' :: rest →
      stop? = (Element.block ('*' :: rest)).toOption.map fun element =>
        ⟨cursor.skip element.text.length, line + element.text.count '\n'⟩
  /-- What is taken at a point is the symbol there. -/
  points : ∃ taken,
    EndsWithin Symbol.pointRound cursor.rest.length ⟨cursor.advance, ['.']⟩
      ⟨cursor.skip taken.length, taken⟩ ∧
    ∀ rest, cursor.rest = '.' :: rest → Symbol.read? cursor.rest = some (taken, .token)
  /-- A quoted literal is judged by what is taken if it is closed, and refused if not. -/
  quoted : ∀ d, ∃ closed s,
    EndsWithin (Quoted.round d) cursor.rest.length ⟨cursor, line, []⟩ (closed, s) ∧
    (Quoted.read cursor line d).cursor = s.cursor.advance ∧
    (Quoted.read cursor line d).line = s.line ∧
    (Quoted.scan d cursor.rest).outcome =
      if closed then Quoted.judge d s.content else .error ⟨[], .unterminatedLiteral d⟩
  /-- The body of a number is passed, whatever comes before it. -/
  number : ∀ form last digits,
    EndsWithin Number.round cursor.rest.length ⟨cursor, form, last, digits⟩
      ⟨cursor.skip (Number.body form last cursor.rest).text.length,
        digits ++ (Number.body form last cursor.rest).text.filter (· ≠ '_'),
        (Number.body form last cursor.rest).outcome⟩

/-- **Every loop ends**, at any cursor and on any line. -/
theorem loopsEnd (cursor : Cursor) (line : Nat) : cursor.LoopsEnd line where
  word := by
    refine ⟨_, ⟨_, (List.takeWhile_prefix _).length_le, Element.ends_wordRound cursor rfl []⟩, ?_⟩
    intro c rest left letter
    rw [Element.text_word letter, left]
    rfl
  lineComment := by
    have bound : (Comment.line cursor.rest.tail).length ≤ cursor.rest.length :=
      (List.takeWhile_prefix _).length_le.trans (List.tail_suffix _).length_le
    refine ⟨_, ⟨_, bound, Comment.ends_lineRound cursor rfl⟩, ?_⟩
    intro c rest left
    rw [left]
    rfl
  blockComment := by
    have beyond : cursor.advance.rest.tail = cursor.rest.tail.tail := by rw [rest_advance]
    have shorter : cursor.rest.tail.tail.length ≤ cursor.rest.length :=
      ((List.tail_suffix _).trans (List.tail_suffix _)).length_le
    cases found : Comment.blockLength? cursor.rest.tail.tail with
    | none =>
      refine ⟨_, ⟨_, shorter, Comment.ends_blockRound_of_none cursor.advance beyond found line⟩, ?_⟩
      intro rest left
      rw [left, List.tail_cons, List.tail_cons] at found
      rw [Element.block, List.tail_cons, found]
      rfl
    | some n =>
      have bound := (Nat.le_of_lt (Comment.lt_length_of_blockLength? found)).trans shorter
      refine ⟨_, ⟨n, bound, Comment.ends_blockRound cursor.advance beyond found line⟩, ?_⟩
      intro rest left
      rw [left, List.tail_cons, List.tail_cons] at found ⊢
      have inside := Nat.le_of_lt (Comment.lt_length_of_blockLength? found)
      rw [Element.block_of_blockLength? found]
      simp [Element.text, Except.toOption, inside]
  points := by
    obtain ⟨k, few, rest, split, stop⟩ := Symbol.exists_points 2 cursor.rest.tail
    have front : List.replicate k '.' <+: cursor.rest.tail := ⟨rest, split.symm⟩
    have bound : k ≤ cursor.rest.length := by
      have shorter := front.length_le.trans (List.tail_suffix _).length_le
      rwa [List.length_replicate] at shorter
    refine ⟨'.' :: List.replicate k '.', ⟨k, bound, ?_⟩, ?_⟩
    · have ends := Symbol.ends_pointRound cursor.advance (cursor.rest_advance.trans split) ['.']
        (Nat.add_le_add_left few 1) (stop.imp_left (congrArg (1 + ·)))
      rwa [List.length_cons, List.length_replicate]
    · intro rest left
      rw [left, List.tail_cons] at split
      rw [left, split]
      exact Symbol.read?_points few stop
  quoted := by
    intro d
    have bound : (cursor.rest.tail.takeWhile (· ≠ d)).length ≤ cursor.rest.length :=
      (List.takeWhile_prefix _).length_le.trans (List.tail_suffix _).length_le
    refine ⟨_, _, ⟨_, bound, Quoted.ends_round cursor rfl d line []⟩, ?_⟩
    refine ⟨Quoted.cursor_read cursor line d, ?_⟩
    rw [Quoted.read, Scan.readAt, Quoted.scan]
    by_cases closing : d ∈ cursor.rest.tail <;> simp [closing]
  number := by
    intro form last digits
    exact ⟨_, (Number.text_body_isPrefix form last cursor.rest).length_le,
      Number.ends_round cursor rfl form last digits⟩

end Cursor

end Lexeme
