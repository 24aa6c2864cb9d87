import Mathlib
import Lexeme.Proofs.Concatenation

/-!
# Cutting a source

A scan carries nothing from one token to the next but its place, and no token has looked at more of
the text behind it than the element that stands there. So a source can be cut behind any token: what
a scan makes of the two parts is what it makes of the whole, with the places of the second part
counted from its own start.

## Main Definitions

* `textBefore`, `textFrom` — the two parts of a source around an offset

## Design Notes

`Cut.of_append` is the converse of `Cut.append`: a row of elements is taken apart anywhere. What has
to be shown is that an element is still stopped when the text goes on for a while in the same way
and then ends. One character decides that, except behind a number, which two points end; but two
points are one element, so no cut comes between them (`Element.Stops.of_first`).
-/

namespace Lexeme

/-- The first `offset` characters of a source. -/
def textBefore (source : String) (offset : Nat) : String :=
  String.ofList (source.toList.take offset)

/-- A source without its first `offset` characters. -/
def textFrom (source : String) (offset : Nat) : String :=
  String.ofList (source.toList.drop offset)

/-! ## What follows an element, up to its own end -/

namespace Element

/-- Two points are read together, with a third one if it is there. -/
theorem points_isPrefix_of_first {strict : Bool} {rest : List Char} {element : Element}
    (found : first strict '.' ('.' :: rest) = .ok element) : ['.', '.'] <+: element.text := by
  cases read : Symbol.read? ('.' :: '.' :: rest) with
  | none => exact absurd (by decide) (Symbol.read?_eq_none_iff.mp read)
  | some entry =>
    obtain ⟨text, kind⟩ := entry
    have noComment : ¬('.' = '/' ∧ (some '.' = some '/' ∨ some '.' = some '*')) := by decide
    rw [(First.symbol noComment read).first_eq] at found
    cases found
    have points : (['.', '.'], Kind.token) ∈ Symbol.table := by decide
    have starts : ['.', '.'] <+: '.' :: '.' :: rest := List.prefix_append ['.', '.'] rest
    have long := Symbol.length_le_of_read? read points starts
    exact List.prefix_of_prefix_length_le starts (Symbol.isPrefix_of_read? read) long

/-- **What follows an element is judged by its first element**, whatever comes after that one. -/
theorem Stops.of_first {strict : Bool} {element next : Element} {c : Char}
    {rest after : List Char} (stops : element.Stops (c :: rest))
    (found : first strict c rest = .ok next) (split : c :: rest = next.text ++ after)
    (after' : List Char) : element.Stops (next.text ++ after') := by
  obtain ⟨tail, covers, rfl⟩ := exists_tail_of_first found split
  rw [covers, List.cons_append]
  refine stops.of_head ?_
  rintro rfl second
  -- The text starts with two points, and then the element does.
  obtain ⟨more, rfl⟩ : ∃ more, tail = '.' :: more := by
    obtain ⟨behind, points⟩ := List.head?_eq_some_iff.mp second
    rw [points] at found
    obtain ⟨more, text⟩ := points_isPrefix_of_first found
    exact ⟨more, (List.cons.inj (text.trans covers)).2.symm⟩
  rfl

end Element

/-! ## Taking rows apart -/

/-- A row that is not empty starts with the first element of its text. -/
theorem Cut.of_cons {strict : Bool} {text : List Char} {element : Element}
    {elements : List Element} {fault? : Option Fault}
    (cut : Cut strict text (element :: elements) fault?) :
    ∃ c rest after, text = c :: rest ∧ Element.first strict c rest = .ok element ∧
      text = element.text ++ after ∧ Cut strict after elements fault? := by
  cases cut with
  | moved found split later => exact ⟨_, _, _, rfl, found, split, later⟩

/-- **Rows are taken apart** anywhere: what comes first is the row of its own text, and so is what
comes after it. -/
theorem Cut.of_append {strict : Bool} {text : List Char} {elements later : List Element}
    {fault? : Option Fault} (cut : Cut strict text (elements ++ later) fault?) :
    ∃ after, text = elements.flatMap Element.text ++ after ∧
      Cut strict (elements.flatMap Element.text) elements none ∧ Cut strict after later fault? ∧
      ∀ element ∈ elements.getLast?, element.Stops after := by
  induction elements generalizing text with
  | nil => exact ⟨text, rfl, .done, cut, by simp⟩
  | cons element elements ih =>
    obtain ⟨c, rest, after, rfl, found, split, tail⟩ := cut.of_cons
    obtain ⟨behind, rfl, front, back, last⟩ := ih tail
    have stops := Element.stops_of_first found split
    refine ⟨behind, by rw [split, List.flatMap_cons, List.append_assoc], ?_, back, ?_⟩
    · rw [List.flatMap_cons]
      refine .cons found ?_ front
      -- In the row's own text comes the next element, or nothing.
      cases elements with
      | nil => exact element.stops_nil
      | cons next elements =>
        obtain ⟨d, rest', after, begins, found', split', -⟩ := tail.of_cons
        rw [begins] at stops split'
        exact stops.of_first found' split' _
    · cases elements with
      | nil =>
        rintro _ ⟨⟩
        exact stops
      | cons next elements => exact last

/-- The elements up to a token of a row are the row that the tokens up to it come from, and their
texts end where the token stops. -/
theorem exists_split_of_lt {elements : List Element} {start : Position} {k : Nat}
    (inside : k < (tokensFrom start elements).length) :
    ∃ passed later, elements = passed ++ later ∧
      tokensFrom start passed = (tokensFrom start elements).take (k + 1) ∧
      (tokensFrom start elements)[k].span.stop = start.past (passed.flatMap Element.text) := by
  generalize found : tokensFrom start elements = tokens at inside
  have split : tokens = tokens.take k ++ tokens[k] :: tokens.drop (k + 1) := by simp
  obtain ⟨passed, element, later, rfl, before, here⟩ :=
    exists_split_of_tokensFrom (found.trans split)
  refine ⟨passed ++ [element], later, by simp, ?_, ?_⟩
  · rw [tokensFrom_append, before, tokensFrom, here, List.take_add_one]
    simp [inside, tokensFrom]
  · rw [Element.span_of_tokenAt? here, Span.of_stop, ← Position.past_append, List.flatMap_append]
    simp

/-- A token of a source is an element that is read from the text behind the place where the token
starts. -/
theorem Lexer.exists_element_of_mem {lexer : Lexer} {source file : String} {tokens : List Token}
    {token : Token} (ok : (lexer.tokenize source file).result = .ok tokens) (mem : token ∈ tokens) :
    ∃ before element after c rest, source.toList = before ++ (element.text ++ after) ∧
      c :: rest = element.text ++ after ∧ Element.first lexer.strict c rest = .ok element ∧
      element.tokenAt? ((Position.start file).past before) = some token := by
  obtain ⟨elements, cut, rfl⟩ := exists_cut_of_ok ok
  obtain ⟨earlier, behind, split⟩ := List.append_of_mem mem
  obtain ⟨passed, element, later, rfl, -, here⟩ := exists_split_of_tokensFrom split
  obtain ⟨text, source, -, back, -⟩ := cut.of_append
  obtain ⟨c, rest, after, rfl, found, covers, -⟩ := back.of_cons
  rw [covers] at source
  exact ⟨passed.flatMap Element.text, element, after, c, rest, source, covers, found, here⟩

/-! ## The two parts of a source -/

namespace Lexer

variable {lexer : Lexer} {source : String}

/-- Around the end of a part of its row, a source falls into that part and the rest of the row. -/
theorem cut_textBefore_textFrom {passed later : List Element} {fault? : Option Fault}
    (cut : Cut lexer.strict source.toList (passed ++ later) fault?) {offset : Nat}
    (place : offset = (passed.flatMap Element.text).length) :
    (textBefore source offset).toList = passed.flatMap Element.text ∧
      Cut lexer.strict (textBefore source offset).toList passed none ∧
      Cut lexer.strict (textFrom source offset).toList later fault? := by
  obtain ⟨after, split, front, back, -⟩ := cut.of_append
  have before : (textBefore source offset).toList = passed.flatMap Element.text := by
    rw [textBefore, String.toList_ofList, split, place, List.take_left]
  have behind : (textFrom source offset).toList = after := by
    rw [textFrom, String.toList_ofList, split, place, List.drop_left]
  rw [before, behind]
  exact ⟨rfl, front, back⟩

/-- **A scan is put together** from the scans of two such parts, the second one moved on by the
characters and line ends before it. -/
theorem result_tokenize_of_parts {passed later : List Element} {fault? : Option Fault}
    (cut : Cut lexer.strict source.toList (passed ++ later) fault?) {offset : Nat}
    (place : offset = (passed.flatMap Element.text).length) (file : String) :
    (lexer.tokenize (textBefore source offset) file).result =
        .ok (tokensFrom (.start file) passed) ∧
      (lexer.tokenize (textFrom source offset) file).result =
        resultFrom (.start file) later fault? ∧
      (lexer.tokenize source file).result =
        ((resultFrom (.start file) later fault?).map fun tokens =>
          tokensFrom (.start file) passed ++
            tokens.map (Token.moved offset ((textBefore source offset).toList.count '\n'))).mapError
          (Error.moved offset ((textBefore source offset).toList.count '\n')) := by
  obtain ⟨text, front, back⟩ := cut_textBefore_textFrom cut place
  refine ⟨result_tokenize_of_cut front file, result_tokenize_of_cut back file, ?_⟩
  have behind : (Position.start file).past (passed.flatMap Element.text) =
      (Position.start file).moved offset ((textBefore source offset).toList.count '\n') := by
    rw [text, place, Position.moved_eq_past]
  rw [result_tokenize_of_cut cut, resultFrom_append, behind, resultFrom_moved]
  cases resultFrom (.start file) later fault? <;> rfl

/-- A scan whose row is empty and cut short fails in its first step. -/
theorem step_reset_of_cut {fault : Fault} (cut : Cut lexer.strict source.toList [] (some fault))
    (file : String) : (lexer.reset source file).step = .failed (fault.errorAt (.start file)) := by
  generalize text : source.toList = chars at cut
  cases cut with
  | failed refused =>
    have left : (lexer.reset source file).cursor.rest = _ := text
    have same : (lexer.reset source file).strict = lexer.strict := rfl
    rw [step_of_cons left, same, refused]
    rfl

end Lexer

/-- **Cutting at a token.**  Cut behind any of its tokens, a source falls into two texts that are
scanned to the tokens up to there and to the ones after it, these moved back by the characters and
line ends before the cut. A source that is refused falls into a text that is scanned and one that is
refused in the same way by the first step of its scan. -/
theorem tokenize_cut (lexer : Lexer) (source file : String) :
    (∀ tokens, (lexer.tokenize source file).result = .ok tokens →
      ∀ (k : Nat) (inside : k < tokens.length) (stop : Nat),
        stop = tokens[k].span.stop.offset →
        (lexer.tokenize (textBefore source stop) file).result = .ok (tokens.take (k + 1)) ∧
        ∃ later, (lexer.tokenize (textFrom source stop) file).result = .ok later ∧
          tokens.drop (k + 1) =
            later.map (Token.moved stop ((textBefore source stop).toList.count '\n'))) ∧
    ∀ error, (lexer.tokenize source file).result = .error error →
      ∃ offset ≤ error.position.offset,
        (∃ tokens, (lexer.tokenize (textBefore source offset) file).result = .ok tokens) ∧
        ∃ refused, (lexer.tokenize (textFrom source offset) file).result = .error refused ∧
          error = refused.moved offset ((textBefore source offset).toList.count '\n') ∧
          (lexer.reset (textFrom source offset) file).step = .failed refused := by
  refine ⟨?_, ?_⟩
  · intro tokens ok k inside stop place
    obtain ⟨elements, cut, rfl⟩ := Lexer.exists_cut_of_ok ok
    obtain ⟨passed, later, rfl, upTo, stops⟩ := exists_split_of_lt inside
    have length : stop = (passed.flatMap Element.text).length := by
      rw [place, stops]
      simp [Position.start]
    obtain ⟨front, back, whole⟩ := Lexer.result_tokenize_of_parts cut length file
    refine ⟨by rw [front, upTo], tokensFrom (.start file) later, back, ?_⟩
    rw [ok, upTo] at whole
    exact List.append_cancel_left ((List.take_append_drop (k + 1) _).trans (Except.ok.inj whole))
  · intro error failed
    obtain ⟨elements, fault, cut, rfl⟩ := Lexer.exists_cut_of_error failed
    rw [← List.append_nil elements] at cut
    obtain ⟨front, back, whole⟩ := Lexer.result_tokenize_of_parts cut rfl file
    obtain ⟨-, -, refused⟩ := Lexer.cut_textBefore_textFrom cut rfl
    refine ⟨(elements.flatMap Element.text).length, by simp [Position.start], ⟨_, front⟩,
      fault.errorAt (.start file), back, ?_, Lexer.step_reset_of_cut refused file⟩
    rw [failed] at whole
    exact Except.error.inj whole

/-- A cut behind a template that spans two lines, and one before a number that is refused. -/
theorem tokenize_cut_behind_template :
    ((Lexer.new true).tokenize "1..\x60\n\x60 7" "s").result =
        .ok [⟨.numericLiteral, "1", ⟨⟨0, 1, "s"⟩, ⟨1, 1, "s"⟩⟩⟩,
          ⟨.token, "..", ⟨⟨1, 1, "s"⟩, ⟨3, 1, "s"⟩⟩⟩,
          ⟨.templateString, "\n", ⟨⟨3, 1, "s"⟩, ⟨6, 2, "s"⟩⟩⟩,
          ⟨.numericLiteral, "7", ⟨⟨7, 2, "s"⟩, ⟨8, 2, "s"⟩⟩⟩] ∧
      (∃ later, ((Lexer.new true).tokenize (textFrom "1..\x60\n\x60 7" 6) "s").result = .ok later ∧
        [⟨.numericLiteral, "7", ⟨⟨7, 2, "s"⟩, ⟨8, 2, "s"⟩⟩⟩] = later.map (Token.moved 6 1)) ∧
      ((Lexer.new true).tokenize "a 0x;" "s").result =
        .error ⟨.numberMustEndNumeric 'x', ⟨4, 1, "s"⟩⟩ ∧
      ∃ offset ≤ 4, ∃ refused,
        ((Lexer.new true).reset (textFrom "a 0x;" offset) "s").step = .failed refused := by
  have ok : ((Lexer.new true).tokenize "1..\x60\n\x60 7" "s").result =
      .ok [⟨.numericLiteral, "1", ⟨⟨0, 1, "s"⟩, ⟨1, 1, "s"⟩⟩⟩,
        ⟨.token, "..", ⟨⟨1, 1, "s"⟩, ⟨3, 1, "s"⟩⟩⟩,
        ⟨.templateString, "\n", ⟨⟨3, 1, "s"⟩, ⟨6, 2, "s"⟩⟩⟩,
        ⟨.numericLiteral, "7", ⟨⟨7, 2, "s"⟩, ⟨8, 2, "s"⟩⟩⟩] := by cbv
  have cut : Cut true ['a', ' ', '0', 'x', ';'] [.verbatim .identifierName ['a'], .blank ' ']
      (some ⟨['0', 'x'], .numberMustEndNumeric 'x'⟩) :=
    .moved rfl rfl (.moved rfl rfl (.failed rfl))
  have failed : ((Lexer.new true).tokenize "a 0x;" "s").result =
      .error ⟨.numberMustEndNumeric 'x', ⟨4, 1, "s"⟩⟩ :=
    @Lexer.result_tokenize_of_cut (.new true) "a 0x;" _ _ cut "s"
  have parts := ((tokenize_cut (.new true) "1..\x60\n\x60 7" "s").1 _ ok 2 (by decide) 6 rfl).2
  obtain ⟨offset, within, -, refused, -, -, step⟩ :=
    (tokenize_cut (.new true) "a 0x;" "s").2 _ failed
  exact ⟨ok, parts, failed, offset, within, refused, step⟩

end Lexeme
