import Mathlib
import Lexeme.Proofs.Cutting
import Lexeme.Proofs.Positions

/-!
# Text at the end of a source

Text that is appended to a source can continue its last token, or make something else of it: a slash
becomes a comment, a name a longer name, a number a fault. It never reaches further back.

## Design Notes

What is shown of rows says more than what is shown of tokens: all elements but the last one are kept
(`Cut.append_behind_last`). The text after such an element is not empty, so that its first element
is there already, and appended text changes nothing of what stops the element
(`Element.Stops.append`). If the last element is a blank or a comment, no token is disturbed.
-/

namespace Lexeme

/-- **All elements but the last one are kept** when a text goes on; in the place of the last one
comes the row of the text from there. -/
theorem Cut.append_behind_last {strict : Bool} {text more : List Char}
    {kept others : List Element} {last : Element} {fault? : Option Fault}
    (cut : Cut strict text (kept ++ [last]) none)
    (next : Cut strict (last.text ++ more) others fault?) :
    Cut strict (text ++ more) (kept ++ others) fault? := by
  obtain ⟨after, rfl, front, back, stops⟩ := cut.of_append
  obtain ⟨c, rest, _, rfl, -⟩ := back.of_cons
  obtain whole : last.text = c :: rest := by simpa using back.flatMap_text
  rw [whole] at next
  rw [List.append_assoc]
  refine front.append next ?_
  intro element mem
  exact (stops element mem).append (List.cons_ne_nil c rest) more

/-- No token of a row starts behind the start of its last element. -/
theorem offset_le_of_mem_tokensFrom_concat {start : Position} {kept : List Element} {last : Element}
    {token : Token} (mem : token ∈ tokensFrom start (kept ++ [last])) :
    token.span.start.offset ≤ start.offset + (kept.flatMap Element.text).length := by
  rw [tokensFrom_append] at mem
  rcases List.mem_append.mp mem with mem | mem
  · obtain ⟨before, text, starts, span⟩ := exists_past_of_mem_tokensFrom mem
    have length := starts.length_le
    rw [List.length_append] at length
    rw [span, Span.of_start, Position.past_offset]
    omega
  · rw [tokensFrom, tokensFrom, List.append_nil] at mem
    rw [Element.span_of_tokenAt? (Option.mem_toList.mp mem), Span.of_start, Position.past_offset]

/-- The tokens of a row but the last one are tokens of its elements but the last one. -/
theorem dropLast_tokensFrom_concat (start : Position) (kept : List Element) (last : Element) :
    (tokensFrom start (kept ++ [last])).dropLast <+: tokensFrom start kept := by
  rw [tokensFrom_append, tokensFrom, tokensFrom, List.append_nil]
  cases last.tokenAt? (start.past (kept.flatMap Element.text)) with
  | none =>
    rw [Option.toList_none, List.append_nil]
    exact List.dropLast_prefix _
  | some token =>
    rw [Option.toList_some, List.dropLast_concat]

/-- **Appended text disturbs at most the last token.**  All tokens of a source but the last one are
tokens of every longer source, in the same places. A longer source that is refused is refused at the
start of the last token or behind it. -/
theorem tokenize_append (lexer : Lexer) (first second file : String) (tokens : List Token)
    (ok : (lexer.tokenize first file).result = .ok tokens) (nonempty : tokens ≠ []) :
    (∀ whole, (lexer.tokenize (first ++ second) file).result = .ok whole →
      tokens.dropLast <+: whole) ∧
    ∀ error, (lexer.tokenize (first ++ second) file).result = .error error →
      (tokens.getLast nonempty).span.start.offset ≤ error.position.offset := by
  obtain ⟨elements, cut, rfl⟩ := Lexer.exists_cut_of_ok ok
  rcases List.eq_nil_or_concat' elements with rfl | ⟨kept, last, rfl⟩
  · exact absurd rfl nonempty
  -- From the start of the last element on, the longer source is scanned anew.
  obtain ⟨others, fault?, next⟩ := exists_cut lexer.strict (last.text ++ second.toList)
  have joined := cut.append_behind_last next
  rw [← String.toList_append] at joined
  rw [Lexer.result_tokenize_of_cut joined]
  refine ⟨?_, ?_⟩
  · intro whole found
    cases fault? with
    | some fault => cases found
    | none =>
      cases found
      rw [tokensFrom_append _ kept others]
      exact (dropLast_tokensFrom_concat _ kept last).trans (List.prefix_append _ _)
  · intro error failed
    cases fault? with
    | none => cases failed
    | some fault =>
      cases failed
      have before := offset_le_of_mem_tokensFrom_concat (List.getLast_mem nonempty)
      rw [Fault.errorAt_position, Position.past_offset, Position.past_offset, List.flatMap_append,
        List.length_append]
      omega

/-- A slash becomes the start of a comment, and a number is refused for the separator at its end. -/
theorem tokenize_append_to_last :
    ((Lexer.new true).tokenize ("a/" ++ "/b") "s").result =
        .ok [⟨.identifierName, "a", ⟨⟨0, 1, "s"⟩, ⟨1, 1, "s"⟩⟩⟩] ∧
      [⟨.identifierName, "a", ⟨⟨0, 1, "s"⟩, ⟨1, 1, "s"⟩⟩⟩,
        ⟨.operator, "/", ⟨⟨1, 1, "s"⟩, ⟨2, 1, "s"⟩⟩⟩].dropLast <+:
          [(⟨.identifierName, "a", ⟨⟨0, 1, "s"⟩, ⟨1, 1, "s"⟩⟩⟩ : Token)] ∧
      ((Lexer.new true).tokenize ("a 1" ++ "_") "s").result =
        .error ⟨.misplacedOrDuplicateSeparator false, ⟨3, 1, "s"⟩⟩ ∧ 2 ≤ 3 := by
  have slash : ((Lexer.new true).tokenize "a/" "s").result =
      .ok [⟨.identifierName, "a", ⟨⟨0, 1, "s"⟩, ⟨1, 1, "s"⟩⟩⟩,
        ⟨.operator, "/", ⟨⟨1, 1, "s"⟩, ⟨2, 1, "s"⟩⟩⟩] := by cbv
  have skipped : Cut true ['a', '/', '/', 'b']
      [.verbatim .identifierName ['a'], .lineComment ['/', '/', 'b']] none :=
    .moved rfl rfl (.moved rfl rfl .done)
  have comment : ((Lexer.new true).tokenize ("a/" ++ "/b") "s").result =
      .ok [⟨.identifierName, "a", ⟨⟨0, 1, "s"⟩, ⟨1, 1, "s"⟩⟩⟩] :=
    @Lexer.result_tokenize_of_cut (.new true) "a//b" _ _ skipped "s"
  have digit : Cut true ['a', ' ', '1'] [.verbatim .identifierName ['a'], .blank ' ',
      .token ⟨.numericLiteral, "1"⟩ ['1']] none :=
    .moved rfl rfl (.moved rfl rfl (.moved rfl rfl .done))
  have number : ((Lexer.new true).tokenize "a 1" "s").result =
      .ok [⟨.identifierName, "a", ⟨⟨0, 1, "s"⟩, ⟨1, 1, "s"⟩⟩⟩,
        ⟨.numericLiteral, "1", ⟨⟨2, 1, "s"⟩, ⟨3, 1, "s"⟩⟩⟩] :=
    @Lexer.result_tokenize_of_cut (.new true) "a 1" _ _ digit "s"
  have separated : Cut true ['a', ' ', '1', '_'] [.verbatim .identifierName ['a'], .blank ' ']
      (some ⟨['1'], .misplacedOrDuplicateSeparator false⟩) :=
    .moved rfl rfl (.moved rfl rfl (.failed rfl))
  have refused : ((Lexer.new true).tokenize ("a 1" ++ "_") "s").result =
      .error ⟨.misplacedOrDuplicateSeparator false, ⟨3, 1, "s"⟩⟩ :=
    @Lexer.result_tokenize_of_cut (.new true) "a 1_" _ _ separated "s"
  have kept := (tokenize_append (.new true) "a/" "/b" "s" _ slash (List.cons_ne_nil _ _)).1
  have behind := (tokenize_append (.new true) "a 1" "_" "s" _ number (List.cons_ne_nil _ _)).2
  exact ⟨comment, kept _ comment, refused, behind _ refused⟩

end Lexeme
