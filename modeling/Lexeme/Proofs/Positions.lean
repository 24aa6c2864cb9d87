import Mathlib
import Lexeme.Proofs.Coverage
import Lexeme.Proofs.Lines

/-!
# Positions

Every position that a scan reports is a place in the source on the line that it says.

## Main Definitions

* `Position.Located` — a position whose offset is in the source and whose line is the line there

## Design Notes

All positions of a scan are reached from the start of the file by passing over a text that the
source starts with, tokens and errors alike (`exists_past_of_mem_tokensFrom`,
`exists_cut_of_error`). `Position.past` counts characters and line ends together, so that is all
there is to show; the walk along the lines of the source, which counts on its own, is brought in by
`Line.exists_at?`.

Positions count in natural numbers. `line_le_length` says how much room they need: a source of line
ends alone has no tokens and no errors, so no line that is reported exceeds the number of
characters. Where these fit into 32 bits, so do the lines that are reported; the last line of such a
source need not (`Lexeme.Proofs.Progress`).
-/

namespace Lexeme

/-- A position is a place in a source, and its line is the line of that place: one more than the
line ends before it, and the number of the line that is found there. -/
structure Position.Located (source : List Char) (p : Position) : Prop where
  /-- The place is not past the end of the source. -/
  offset_le : p.offset ≤ source.length
  /-- The line counts the line ends before the place. -/
  line_eq : p.line = 1 + (source.take p.offset).count '\n'
  /-- The line found at the place has the same number. -/
  number_at? : (Line.at? source p.offset).map Line.number = some p.line

/-- Passing over a text that the source starts with leads to a place of the source. -/
theorem Position.located_past {source before : List Char} (starts : before <+: source)
    (file : String) : ((start file).past before).Located source := by
  obtain ⟨after, rfl⟩ := starts
  have offset : ((start file).past before).offset = before.length := Nat.zero_add _
  have within : before.length ≤ (before ++ after).length := by simp
  have line : ((start file).past before).line =
      1 + ((before ++ after).take before.length).count '\n' := by
    rw [List.take_left]
    rfl
  obtain ⟨found, here, shows⟩ := Line.exists_at? within
  refine ⟨offset ▸ within, offset ▸ line, ?_⟩
  rw [offset, here, Option.map_some, shows.number_eq, line]

/-- Later places of a source are on later lines, or on the same one. -/
theorem Position.Located.line_le {source : List Char} {p q : Position} (first : p.Located source)
    (second : q.Located source) (before : p.offset ≤ q.offset) : p.line ≤ q.line := by
  rw [first.line_eq, second.line_eq]
  exact Nat.add_le_add_left ((List.take_sublist_take_left before).count_le _) 1

/-- A token of a row stands between the texts before it and after it. -/
theorem exists_past_of_mem_tokensFrom {elements : List Element} {start : Position} {token : Token}
    (mem : token ∈ tokensFrom start elements) :
    ∃ before text, before ++ text <+: elements.flatMap Element.text ∧
      token.span = .of (start.past before) text := by
  obtain ⟨earlier, after, split⟩ := List.append_of_mem mem
  obtain ⟨passed, element, later, rfl, -, here⟩ := exists_split_of_tokensFrom split
  refine ⟨passed.flatMap Element.text, element.text, ?_, Element.span_of_tokenAt? here⟩
  rw [List.flatMap_append, List.flatMap_cons, ← List.append_assoc]
  exact List.prefix_append _ _

/-- Both ends of every token are places of the source. -/
theorem located_of_ok {lexer : Lexer} {source file : String} {tokens : List Token}
    (ok : (lexer.tokenize source file).result = .ok tokens) :
    ∀ token ∈ tokens, token.span.start.Located source.toList ∧
      token.span.stop.Located source.toList := by
  obtain ⟨elements, cut, rfl⟩ := Lexer.exists_cut_of_ok ok
  intro token mem
  obtain ⟨before, text, starts, span⟩ := exists_past_of_mem_tokensFrom mem
  rw [cut.flatMap_text] at starts
  rw [span, Span.of_start, Span.of_stop, ← Position.past_append]
  exact ⟨Position.located_past ((List.prefix_append before text).trans starts) file,
    Position.located_past starts file⟩

/-- An error is a place of the source. -/
theorem located_of_error {lexer : Lexer} {source file : String} {error : Error}
    (failed : (lexer.tokenize source file).result = .error error) :
    error.position.Located source.toList := by
  obtain ⟨elements, fault, cut, rfl⟩ := Lexer.exists_cut_of_error failed
  obtain ⟨after, split, -, ahead⟩ := cut.exists_split
  rw [Fault.errorAt_position, ← Position.past_append]
  refine Position.located_past ?_ file
  rw [split]
  exact (List.prefix_append_right_inj _).mpr (ahead fault rfl)

/-! ## Room for positions -/

/-- A line end is a blank. -/
theorem Element.first_newline (strict : Bool) (rest : List Char) :
    first strict '\n' rest = .ok (.blank '\n') := rfl

/-- A text of line ends alone has no tokens and no errors. -/
theorem Cut.silent_of_newlines {strict : Bool} {text : List Char} {elements : List Element}
    {fault? : Option Fault} (cut : Cut strict text elements fault?)
    (newlines : ∀ c ∈ text, c = '\n') :
    fault? = none ∧ ∀ start, tokensFrom start elements = [] := by
  induction cut with
  | done => exact ⟨rfl, fun _ => rfl⟩
  | failed refused =>
    obtain ⟨rfl, -⟩ := List.forall_mem_cons.mp newlines
    rw [Element.first_newline] at refused
    cases refused
  | moved found split _ ih =>
    obtain ⟨rfl, -⟩ := List.forall_mem_cons.mp newlines
    rw [Element.first_newline] at found
    cases found
    obtain ⟨ended, silent⟩ := ih fun c mem => newlines c (split ▸ List.mem_append_right _ mem)
    exact ⟨ended, fun start => silent _⟩

/-- A source that has other characters than line ends has no more lines than characters. -/
theorem Position.Located.line_le_length {source : List Char} {p : Position}
    (located : p.Located source) (other : ¬∀ c ∈ source, c = '\n') : p.line ≤ source.length := by
  have fewer : source.count '\n' < source.length := by
    apply Nat.lt_of_le_of_ne List.count_le_length
    intro all
    exact other fun c mem => (List.count_eq_length.mp all c mem).symm
  have before := (List.take_sublist p.offset source).count_le '\n'
  rw [located.line_eq]
  omega

/-- The lines of tokens and errors never exceed the number of characters, and their offsets do not
either: where lengths fit into 32 bits, so do positions. -/
theorem line_le_length (lexer : Lexer) (source file : String) :
    (∀ tokens, (lexer.tokenize source file).result = .ok tokens → ∀ token ∈ tokens,
      token.span.start.line ≤ source.length ∧ token.span.stop.line ≤ source.length) ∧
    ∀ error, (lexer.tokenize source file).result = .error error →
      error.position.line ≤ source.length := by
  rw [← String.length_toList]
  refine ⟨?_, ?_⟩
  · intro tokens ok token mem
    have other : ¬∀ c ∈ source.toList, c = '\n' := by
      intro newlines
      obtain ⟨elements, cut, rfl⟩ := Lexer.exists_cut_of_ok ok
      rw [(cut.silent_of_newlines newlines).2] at mem
      cases mem
    obtain ⟨start, stop⟩ := located_of_ok ok token mem
    exact ⟨start.line_le_length other, stop.line_le_length other⟩
  · intro error failed
    apply (located_of_error failed).line_le_length
    intro newlines
    obtain ⟨elements, fault, cut, -⟩ := Lexer.exists_cut_of_error failed
    cases (cut.silent_of_newlines newlines).1

/-! ## Positions are accurate -/

/-- **Position accuracy.**  Both ends of every token and the place of every error are in the source,
on the line that they say; so lines never decrease along the tokens. -/
theorem tokenize_located (lexer : Lexer) (source file : String) :
    (∀ tokens, (lexer.tokenize source file).result = .ok tokens →
      (∀ token ∈ tokens, token.span.start.Located source.toList ∧
        token.span.stop.Located source.toList) ∧
      tokens.Pairwise fun token later => token.span.start.line ≤ token.span.stop.line ∧
        token.span.stop.line ≤ later.span.start.line) ∧
    ∀ error, (lexer.tokenize source file).result = .error error →
      error.position.Located source.toList := by
  refine ⟨?_, ?_⟩
  · intro tokens ok
    have located := located_of_ok ok
    have layout := layout_of_tokenize ok
    refine ⟨located, layout.ordered.imp_of_mem ?_⟩
    -- Spans are in order, and so are the lines of their ends.
    intro token later mem memLater before
    obtain ⟨start, stop⟩ := located token mem
    have nonempty := (layout.bounds token mem).2.1
    exact ⟨start.line_le stop (Nat.le_of_lt nonempty), stop.line_le (located later memLater).1 before⟩
  · intro error failed
    exact located_of_error failed

/-- A template over a line end, and an error after one. -/
theorem tokenize_located_over_line_ends :
    (∀ token ∈ [(⟨.templateString, "a\nb", ⟨⟨0, 1, "s"⟩, ⟨5, 2, "s"⟩⟩⟩ : Token)],
      token.span.start.Located "\x60a\nb\x60".toList ∧
        token.span.stop.Located "\x60a\nb\x60".toList) ∧
    (⟨2, 2, "s"⟩ : Position).Located "\n1x".toList := by
  have ok : ((Lexer.new true).tokenize "\x60a\nb\x60" "s").result =
      .ok [⟨.templateString, "a\nb", ⟨⟨0, 1, "s"⟩, ⟨5, 2, "s"⟩⟩⟩] := by cbv
  have cut : Cut true ['\n', '1', 'x'] [.blank '\n']
      (some ⟨['1'], .malformedDecimalLiteral 'x'⟩) := .moved rfl rfl (.failed rfl)
  have failed : ((Lexer.new true).tokenize "\n1x" "s").result =
      .error ⟨.malformedDecimalLiteral 'x', ⟨2, 2, "s"⟩⟩ :=
    @Lexer.result_tokenize_of_cut (.new true) "\n1x" _ _ cut "s"
  have tokens := (tokenize_located (Lexer.new true) "\x60a\nb\x60" "s").1 _ ok
  have error := (tokenize_located (Lexer.new true) "\n1x" "s").2 _ failed
  exact ⟨tokens.1, error⟩

end Lexeme
