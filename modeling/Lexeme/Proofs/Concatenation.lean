import Mathlib
import Lexeme.Proofs.Boundaries

/-!
# Concatenation at a line end

A line end between two texts keeps them apart: what a scan makes of the one does not depend on the
other, except that places in the second text are counted from the start of the first.

## Main Definitions

* `Position.moved`, `Span.moved`, `Token.moved`, `Error.moved` — the same thing further on in a file
* `Cause.isUnterminated` — the causes that more text may take away

## Design Notes

A scan that succeeds has passed its last element, so `Cut.append` puts the rows together. A scan
that fails has looked at the text up to its end, and it has to be shown that a line end there changes
nothing of what it has seen (`first_append_of_isBlank`). Only a literal or comment that is still
open goes on behind the line end.
-/

namespace Lexeme

/-! ## Places further on -/

/-- The place that lies so many characters and lines further on in the file. -/
def Position.moved (offsets lines : Nat) (p : Position) : Position :=
  { p with offset := p.offset + offsets, line := p.line + lines }

/-- The stretch that lies so many characters and lines further on. -/
def Span.moved (offsets lines : Nat) (span : Span) : Span :=
  ⟨span.start.moved offsets lines, span.stop.moved offsets lines⟩

/-- The same token so many characters and lines further on. -/
def Token.moved (offsets lines : Nat) (token : Token) : Token :=
  { token with span := token.span.moved offsets lines }

/-- The same error so many characters and lines further on. -/
def Error.moved (offsets lines : Nat) (error : Error) : Error :=
  { error with position := error.position.moved offsets lines }

theorem Position.past_moved (p : Position) (offsets lines : Nat) (text : List Char) :
    (p.moved offsets lines).past text = (p.past text).moved offsets lines := by
  simp [Position.past, Position.moved, Nat.add_right_comm]

/-- Passing over a text is moving on by its characters and its line ends. -/
theorem Position.moved_eq_past (p : Position) (text : List Char) :
    p.moved text.length (text.count '\n') = p.past text := rfl

theorem tokensFrom_moved (start : Position) (offsets lines : Nat) (elements : List Element) :
    tokensFrom (start.moved offsets lines) elements =
      (tokensFrom start elements).map (Token.moved offsets lines) := by
  induction elements generalizing start with
  | nil => rfl
  | cons element elements ih =>
    rw [tokensFrom, tokensFrom, Position.past_moved, ih, List.map_append]
    cases reads : element.reading? with
    | none => simp [Element.tokenAt?, reads]
    | some reading =>
      simp [Element.tokenAt?, reads, Token.moved, Span.moved, Span.of, Position.past_moved]

/-- What a row comes to further on is the same, further on. -/
theorem resultFrom_moved (start : Position) (offsets lines : Nat) (elements : List Element)
    (fault? : Option Fault) :
    resultFrom (start.moved offsets lines) elements fault? =
      ((resultFrom start elements fault?).map (List.map (Token.moved offsets lines))).mapError
        (Error.moved offsets lines) := by
  cases fault? with
  | none => rw [resultFrom, tokensFrom_moved]; rfl
  | some fault =>
    rw [resultFrom, Position.past_moved, Fault.errorAt, Position.past_moved]
    rfl

/-! ## Faults before a blank -/

/-- Whether more text may take the cause away. -/
def Cause.isUnterminated : Cause → Bool
  | unterminatedLiteral _ | unterminatedComment => true
  | _ => false

namespace Number

variable {d : Char} (other : d.isAlphanum = false ∧ d ≠ '_' ∧ d ≠ '.')
include other

/-- A body takes a character that cannot be part of a number for the end of the text. -/
theorem body_append (form : Form) (last : Option Char) (source more : List Char) :
    body form last (source ++ d :: more) = body form last source := by
  obtain ⟨notAlphanum, notSeparator, notPoint⟩ := other
  induction source generalizing form last with
  | nil => exact body_of_ends form last (.inl ⟨notAlphanum, notSeparator, notPoint⟩)
  | cons c rest ih =>
    -- What the scan asks about the next character has the same answer.
    have digit : (rest ++ d :: more).head?.any Char.isDigit = rest.head?.any Char.isDigit := by
      have : d.isDigit = false := (Bool.or_eq_false_iff.mp notAlphanum).2
      cases rest <;> simp [this]
    have next {x : Char} (ne : d ≠ x) :
        (rest ++ d :: more).head? = some x ↔ rest.head? = some x := by
      cases rest <;> simp [ne]
    simp only [List.cons_append, body, next notSeparator, next notPoint, digit, ih]

/-- So does the scan of a number. -/
theorem scan_append (c : Char) (rest more : List Char) :
    scan (c :: (rest ++ d :: more)) = scan (c :: rest) := by
  have bare := body_append other .decimal none (c :: rest) more
  cases rest with
  | nil =>
    obtain ⟨notAlphanum, notSeparator, -⟩ := other
    have noMarker : Form.ofMarker? d = none := by
      apply Option.eq_none_iff_forall_ne_some.mpr
      intro form known
      have letter := isAlphanum_of_mem_markers ((ofMarker?_eq_some_iff d form).mp known)
      rw [notAlphanum] at letter
      cases letter
    by_cases zero : c = '0'
    · subst zero
      simpa [scan, noMarker, notAlphanum, notSeparator] using congrArg (Body.toScan · []) bare
    · simpa [scan, zero] using congrArg (Body.toScan · []) bare
  | cons marker rest =>
    rw [List.cons_append, List.cons_append] at bare
    simp only [List.cons_append, scan, body_append other, bare]

end Number

/-- A fault that no open literal or comment causes is there before a blank as well. -/
theorem Element.first_append_of_isBlank {strict : Bool} {c d : Char} {rest : List Char}
    {fault : Fault} (refused : first strict c rest = .error fault)
    (closed : fault.cause.isUnterminated = false) (white : Text.isBlank d = true)
    (more : List Char) :
    first strict c (rest ++ d :: more) = .error fault := by
  have spec := first_spec strict c rest
  generalize first strict c rest = result at spec refused
  cases spec with
  | blank _ => cases refused
  | word _ _ => cases refused
  | number starts =>
    have starts' : startsNumber c (rest ++ d :: more) = true := by
      refine (Bool.or_eq_true _ _).mpr (((Bool.or_eq_true _ _).mp starts).imp_right ?_)
      intro separator
      obtain ⟨eq, next⟩ := Bool.and_eq_true_iff.mp separator
      exact Bool.and_eq_true_iff.mpr ⟨eq, Number.head?_append_of_any next _⟩
    rw [(First.number starts').first_eq, Number.scan_append (Number.other_of_isBlank white)]
    exact refused
  | quoted starts =>
    rw [(First.quoted starts).first_eq]
    by_cases mem : c ∈ rest
    · obtain ⟨content, after, rfl, inside⟩ := List.eq_append_cons_of_mem mem
      rw [List.append_assoc, List.cons_append, Quoted.scan_of_notMem inside]
      rw [Quoted.scan_of_notMem inside] at refused
      exact refused
    · -- The literal is still open.
      rw [(ofScan_eq_error_iff _ _).mpr (Quoted.outcome_scan_of_notMem mem)] at refused
      cases refused
      cases closed
  | lineComment _ _ => cases refused
  | blockComment _ _ =>
    unfold block at refused
    split at refused <;> cases refused
    cases closed
  | symbol _ _ => cases refused
  | unknown notBlank notLetter notNumber notQuoted noSymbol =>
    split at refused <;> cases refused
    next isStrict =>
    obtain ⟨notDigit, noSeparator⟩ := Bool.or_eq_false_iff.mp notNumber
    have noNumber : startsNumber c (rest ++ d :: more) = false := by
      have other := Bool.or_eq_false_iff.mp (Number.other_of_isBlank white).1
      cases rest with
      | nil => simp [startsNumber, notDigit, other.2]
      | cons e rest => exact notNumber
    have noSymbol : Symbol.read? (c :: (rest ++ d :: more)) = none :=
      Symbol.read?_eq_none_iff.mpr (Symbol.read?_eq_none_iff.mp noSymbol)
    rw [(First.unknown notBlank notLetter noNumber notQuoted noSymbol).first_eq, if_pos isStrict]

/-- A row that is cut short by such a fault is cut short there as well. -/
theorem Cut.append_of_isBlank {strict : Bool} {text : List Char} {elements : List Element}
    {fault : Fault} (cut : Cut strict text elements (some fault))
    (closed : fault.cause.isUnterminated = false) {d : Char} (white : Text.isBlank d = true)
    (more : List Char) : Cut strict (text ++ d :: more) elements (some fault) := by
  generalize short : some fault = fault? at cut
  induction cut with
  | done => cases short
  | failed refused =>
    cases short
    exact .failed (Element.first_append_of_isBlank refused closed white more)
  | moved found split later ih =>
    refine .moved_append found split ?_ (ih short)
    -- The text after the element is not used up, since something in it is refused.
    rintro rfl
    subst short
    cases later

/-! ## Two texts -/

/-- **Concatenation at a line end.**  After a text that is scanned, a line end and a second text
come to the tokens of the first text and what the second text comes to, moved on by the characters
and line ends before it. A text that is refused is refused in the same way, unless a literal or
comment is still open at its end. -/
theorem tokenize_append_newline (lexer : Lexer) (first second file : String) :
    (∀ tokens, (lexer.tokenize first file).result = .ok tokens →
      (lexer.tokenize (first ++ "\n" ++ second) file).result =
        ((lexer.tokenize second file).result.map fun later =>
          tokens ++ later.map
            (Token.moved (first.length + 1) (first.toList.count '\n' + 1))).mapError
          (Error.moved (first.length + 1) (first.toList.count '\n' + 1))) ∧
    ∀ error, (lexer.tokenize first file).result = .error error →
      error.cause.isUnterminated = false →
      (lexer.tokenize (first ++ "\n" ++ second) file).result = .error error := by
  have text : (first ++ "\n" ++ second).toList = first.toList ++ '\n' :: second.toList := by simp
  have white : Text.isBlank '\n' = true := by decide
  refine ⟨?_, ?_⟩
  · intro tokens ok
    obtain ⟨elements, cut, rfl⟩ := Lexer.exists_cut_of_ok ok
    obtain ⟨later, fault?, next⟩ := exists_cut lexer.strict second.toList
    have whole : Cut lexer.strict (first ++ "\n" ++ second).toList
        (elements ++ .blank '\n' :: later) fault? := by
      rw [text]
      refine cut.append (.moved (Element.First.blank white).first_eq rfl next) ?_
      intro element _
      refine Element.stops_of_isBlank ?_ ?_
      · rintro _ ⟨⟩
        exact white
      · rintro _ _ _ ⟨⟩
        rfl
    have passed (p : Position) : resultFrom p (.blank '\n' :: later) fault? =
        resultFrom (p.past ['\n']) later fault? := by
      cases fault? with
      | none => rfl
      | some fault =>
        rw [resultFrom, resultFrom, List.flatMap_cons, Position.past_append]
        rfl
    have place : ((Position.start file).past first.toList).past ['\n'] =
        (Position.start file).moved (first.length + 1) (first.toList.count '\n' + 1) := by
      rw [← Position.past_append, ← Position.moved_eq_past]
      simp [String.length_toList]
    rw [Lexer.result_tokenize_of_cut whole, Lexer.result_tokenize_of_cut next, resultFrom_append,
      cut.flatMap_text, passed, place, resultFrom_moved]
    cases resultFrom (.start file) later fault? <;> rfl
  · intro error failed closed
    obtain ⟨elements, fault, cut, rfl⟩ := Lexer.exists_cut_of_error failed
    have whole : Cut lexer.strict (first ++ "\n" ++ second).toList elements (some fault) := by
      rw [text]
      exact cut.append_of_isBlank closed white second.toList
    rw [Lexer.result_tokenize_of_cut whole]
    rfl

/-- A comment ends at the line end, and a number on the next line is refused there; a separator at
the end of a text is refused before a line end as well. -/
theorem tokenize_append_newline_after_comment :
    ((Lexer.new true).tokenize ("a//b" ++ "\n" ++ "0x") "s").result =
        .error ⟨.numberMustEndNumeric 'x', ⟨7, 2, "s"⟩⟩ ∧
      ((Lexer.new true).tokenize ("1_" ++ "\n" ++ "'") "s").result =
        .error ⟨.misplacedOrDuplicateSeparator false, ⟨1, 1, "s"⟩⟩ := by
  have ok : ((Lexer.new true).tokenize "a//b" "s").result =
      .ok [⟨.identifierName, "a", ⟨⟨0, 1, "s"⟩, ⟨1, 1, "s"⟩⟩⟩] := by cbv
  have marked : Cut true ['0', 'x'] [] (some ⟨['0', 'x'], .numberMustEndNumeric 'x'⟩) := .failed rfl
  have second : ((Lexer.new true).tokenize "0x" "s").result =
      .error ⟨.numberMustEndNumeric 'x', ⟨2, 1, "s"⟩⟩ :=
    @Lexer.result_tokenize_of_cut (.new true) "0x" _ _ marked "s"
  have separated : Cut true ['1', '_'] [] (some ⟨['1'], .misplacedOrDuplicateSeparator false⟩) :=
    .failed rfl
  have failed : ((Lexer.new true).tokenize "1_" "s").result =
      .error ⟨.misplacedOrDuplicateSeparator false, ⟨1, 1, "s"⟩⟩ :=
    @Lexer.result_tokenize_of_cut (.new true) "1_" _ _ separated "s"
  have joined := (tokenize_append_newline (Lexer.new true) "a//b" "0x" "s").1 _ ok
  rw [second] at joined
  exact ⟨joined, (tokenize_append_newline (Lexer.new true) "1_" "'" "s").2 _ failed rfl⟩

end Lexeme
