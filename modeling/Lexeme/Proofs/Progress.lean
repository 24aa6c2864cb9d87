import Mathlib
import Lexeme.Proofs.Positions
import Lexeme.Proofs.StepLoops

/-!
# Progress

A scan ends: each step passes a character or is the last one, and so there are no more steps than
characters, and no more tokens than steps.

## Main Definitions

* `Lexer.Advances` — what a step that passes an element does to the lexer
* `Lexer.Progress` — what a step can come to
* `Lexer.round` — a step as a round of the loop over a source
* `Lexer.Stands` — a lexer in the course of a scan of a source
* `Lexer.UsesUpCounter` — a short source with one line more than a counter of 32 bits has numbers

## Design Notes

That `Lexer.run` is a function says that it ends, but not when. `Lexer.round` forgets this and
leaves a loop as those of `Lexeme.Proofs.Loops`, which is then shown to go round once for each
element (`ends_round_of_cut`) and to be left as the run is (`runFrom_of_cut`). A step that fails is
not counted as a round but stands at a character of its own (`Cut.length_le`).

The line of a lexer never decreases, but its counter of 32 bits starts over behind its last number.
Lines start at one, so a source that is short enough for its offsets has room for all of its lines
but in one case (`line_lt_or_of_stands`): 4294967295 line ends, and nothing else, lead to line
4294967296, where the counter shows zero. No token and no error stands on that line.
-/

namespace Lexeme

/-! ## Rows are no longer than their texts -/

/-- A row has no more elements than its text has characters, and one less if it is cut short. -/
theorem Cut.length_le {strict : Bool} {text : List Char} {elements : List Element}
    {fault? : Option Fault} (cut : Cut strict text elements fault?) :
    elements.length + fault?.toList.length ≤ text.length := by
  induction cut with
  | done => exact Nat.le_refl 0
  | failed _ => exact Nat.le_add_left _ _
  | @moved c rest after element elements fault? found split _ ih =>
    have positive := List.length_pos_iff.mpr (Element.text_first_ne_nil found)
    rw [split, List.length_append, List.length_cons]
    omega

/-- A row has no more tokens than elements. -/
theorem length_tokensFrom_le (start : Position) (elements : List Element) :
    (tokensFrom start elements).length ≤ elements.length := by
  induction elements generalizing start with
  | nil => exact Nat.le_refl 0
  | cons element elements ih =>
    have one : (element.tokenAt? start).toList.length ≤ 1 := Option.length_toList_le
    have later := ih (start.past element.text)
    rw [tokensFrom, List.length_append, List.length_cons]
    omega

namespace Lexer

/-! ## One step -/

/-- What a step that passes an element does to the lexer. -/
structure Advances (lexer next : Lexer) : Prop where
  /-- The source is the same. -/
  source_eq : next.cursor.source = lexer.cursor.source
  /-- At least one character is passed. -/
  offset_lt : lexer.cursor.offset < next.cursor.offset
  /-- No character is passed that is not there. -/
  offset_le : next.cursor.offset ≤ lexer.cursor.source.length
  /-- At most one token is found. -/
  tokens_eq : ∃ token? : Option Token, next.tokens = token?.toList ++ lexer.tokens
  /-- The line goes up by the line ends that are passed. -/
  line_eq : next.line = lexer.line +
    (lexer.cursor.rest.take (next.cursor.offset - lexer.cursor.offset)).count '\n'
  /-- So does its counter, which may start over. -/
  counter_eq : next.counter = lexer.counter +
    .ofNat ((lexer.cursor.rest.take (next.cursor.offset - lexer.cursor.offset)).count '\n')

/-- What a step can come to: it is done exactly at the end of the source, and before that it fails
or gets on. -/
inductive Progress (lexer : Lexer) : Step → Prop
  | done (used : lexer.cursor.offset = lexer.cursor.source.length) : Progress lexer .done
  | failed (left : lexer.cursor.offset < lexer.cursor.source.length) (error : Error) :
      Progress lexer (.failed error)
  | moved (left : lexer.cursor.offset < lexer.cursor.source.length) (log : List Log.Record)
      {next : Lexer} (advances : lexer.Advances next) : Progress lexer (.moved log next)

/-- Passing an element that stands at the cursor gets on. -/
theorem advances_pass {lexer : Lexer} {element : Element} {after : List Char}
    (left : lexer.cursor.rest = element.text ++ after) (nonempty : element.text ≠ []) :
    lexer.Advances (lexer.pass element) := by
  have offset : (lexer.pass element).cursor.offset = lexer.cursor.offset + element.text.length :=
    Cursor.offset_skip_of_append left
  have positive := List.length_pos_iff.mpr nonempty
  have passed : lexer.cursor.rest.take ((lexer.pass element).cursor.offset - lexer.cursor.offset) =
      element.text := by
    rw [offset, Nat.add_sub_cancel_left, left, List.take_left]
  refine ⟨source_pass lexer element, ?_, ?_, ⟨_, tokens_pass lexer element⟩, ?_, ?_⟩
  · omega
  · rw [← source_pass lexer element]
    exact (lexer.pass element).cursor.offset_le
  · rw [passed]
    rfl
  · rw [passed]
    exact lineCounter_add _ _

/-- **Every step makes progress.** -/
theorem progress_step (lexer : Lexer) : lexer.Progress lexer.step := by
  have whole := lexer.cursor.offset_add_length_rest
  cases left : lexer.cursor.rest with
  | nil =>
    rw [left] at whole
    rw [step_of_nil left]
    exact .done whole
  | cons c rest =>
    have before : lexer.cursor.offset < lexer.cursor.source.length := by
      rw [left, List.length_cons] at whole
      omega
    rw [step_of_cons left]
    cases read : Element.first lexer.strict c rest with
    | error fault => exact .failed before _
    | ok element =>
      obtain ⟨after, split⟩ := Element.text_first_isPrefix read
      have advances := advances_pass (left.trans split.symm) (Element.text_first_ne_nil read)
      exact .moved before _ advances

/-! ## The loop over a source -/

/-- A step as a round of a loop, which is left with the lexer and the error if there is one. -/
def round (lexer : Lexer) : Loop.Round Lexer (Lexer × Option Error) :=
  match lexer.step with
  | .done => .leave (lexer, none)
  | .failed error => .leave (lexer, some error)
  | .moved _ next => .again next

/-- The loop goes round once for each element that its text is cut into. -/
theorem ends_round_of_cut {strict : Bool} {text : List Char} {elements : List Element}
    {fault? : Option Fault} (cut : Cut strict text elements fault?) (lexer : Lexer)
    (same : lexer.strict = strict) (left : lexer.cursor.rest = text) :
    Loop.Ends round lexer elements.length
      (elements.foldl pass lexer, fault?.map (·.errorAt (elements.foldl pass lexer).here)) := by
  induction cut generalizing lexer with
  | done => exact .leave (by rw [round, step_of_nil left]; rfl)
  | failed refused => exact .leave (by rw [round, step_of_cons left, same, refused]; rfl)
  | @moved c rest after element elements fault? found split _ ih =>
    have goesOn : lexer.round = .again (lexer.pass element) := by
      rw [round, step_of_cons left, same, found, comesTo]
    have later : (lexer.pass element).cursor.rest = after := by
      rw [rest_pass, left, split, List.drop_left]
    exact .again goesOn (ih (lexer.pass element) same later)

/-! ## The lines of a scan -/

/-- A lexer that scans a source has come to a place of it, and to the line there. -/
def Stands (source : List Char) (file : String) (lexer : Lexer) : Prop :=
  ∃ before, source = before ++ lexer.cursor.rest ∧ lexer.here = (Position.start file).past before

/-- The loop over a source stays in the source and on its lines. -/
theorem stands_of_reaches {lexer current : Lexer} {source file : String}
    (reaches : Loop.Reaches round (lexer.reset source file) current) :
    Stands source.toList file current := by
  induction reaches with
  | start => exact ⟨[], rfl, rfl⟩
  | @again current next _ goesOn ih =>
    obtain ⟨before, split, place⟩ := ih
    rw [round] at goesOn
    cases moved : current.step with
    | done => rw [moved] at goesOn; cases goesOn
    | failed error => rw [moved] at goesOn; cases goesOn
    | moved log next =>
      rw [moved] at goesOn
      cases goesOn
      obtain ⟨c, rest, element, left, found, -, rfl⟩ := exists_of_step moved
      obtain ⟨after, front⟩ := Element.text_first_isPrefix found
      have here := here_pass (left.trans front.symm)
      refine ⟨before ++ element.text, ?_, ?_⟩
      · rw [rest_pass, split, left, ← front, List.drop_left, List.append_assoc]
      · rw [here, place, Position.past_append]

/-- A source of line ends alone that has one line more than a counter of 32 bits has numbers. -/
def UsesUpCounter (source : List Char) : Prop :=
  source.length = 2 ^ 32 - 1 ∧ ∀ c ∈ source, c = '\n'

/-- A source that is short enough for offsets of 32 bits has room for its lines as well, unless it
is one of line ends alone, at its end. -/
theorem line_lt_or_of_stands {lexer : Lexer} {source : List Char} {file : String}
    (stands : Stands source file lexer) (short : source.length < 2 ^ 32) :
    lexer.line < 2 ^ 32 ∨ UsesUpCounter source ∧ lexer.cursor.rest = [] := by
  obtain ⟨before, split, place⟩ := stands
  have line : lexer.line = 1 + before.count '\n' := congrArg Position.line place
  have length := congrArg List.length split
  rw [List.length_append] at length
  have few : before.count '\n' ≤ before.length := List.count_le_length
  by_cases fits : lexer.line < 2 ^ 32
  · exact .inl fits
  · have used : lexer.cursor.rest = [] := List.length_eq_zero_iff.mp (by omega)
    rw [used, List.append_nil] at split
    subst split
    have all := List.count_eq_length.mp (show source.count '\n' = source.length by omega)
    exact .inr ⟨⟨by omega, fun c mem => (all c mem).symm⟩, used⟩

/-- Line ends are passed one by one, each for the next line. -/
theorem exists_reaches_of_newlines (n : Nat) {lexer : Lexer} {after : List Char}
    (left : lexer.cursor.rest = List.replicate n '\n' ++ after) :
    ∃ current, Loop.Reaches round lexer current ∧ current.cursor.rest = after ∧
      current.line = lexer.line + n := by
  induction n generalizing after with
  | zero => exact ⟨lexer, .start, left, rfl⟩
  | succ n ih =>
    rw [List.replicate_succ', List.append_assoc, List.singleton_append] at left
    obtain ⟨current, reaches, rest, line⟩ := ih left
    refine ⟨current.pass (.blank '\n'), .again reaches ?_, ?_, ?_⟩
    · rw [round, step_of_cons rest, Element.first_newline, comesTo]
    · rw [rest_pass, rest]
      rfl
    · rw [← Nat.add_assoc, ← line]
      rfl

/-- A scan of line ends alone takes its last step from the line that is their number. -/
theorem exists_last_step_of_newlines (strict : Bool) (n : Nat) (file : String) :
    ∃ current log next,
      Loop.Reaches round
        ((new strict).reset (String.ofList (List.replicate (n + 1) '\n')) file) current ∧
      current.step = .moved log next ∧ current.line = n + 1 ∧ next.line = n + 2 := by
  have left : ((new strict).reset (String.ofList (List.replicate (n + 1) '\n')) file).cursor.rest =
      List.replicate n '\n' ++ ['\n'] := by
    rw [← List.replicate_succ']
    exact String.toList_ofList
  obtain ⟨current, reaches, rest, line⟩ := exists_reaches_of_newlines n left
  refine ⟨current, [], current.pass (.blank '\n'), reaches, ?_, ?_, ?_⟩
  · rw [step_of_cons rest, Element.first_newline]
    rfl
  · exact line.trans (Nat.add_comm 1 n)
  · change current.line + 1 = n + 2
    rw [line]
    exact congrArg (· + 1) (Nat.add_comm 1 n)

end Lexer

end Lexeme
