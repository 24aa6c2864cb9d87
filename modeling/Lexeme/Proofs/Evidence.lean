import Mathlib
import Lexeme.Proofs.Boundaries

/-!
# What an error shows

An error tells the truth about the source: what its cause says was found stands where its position
points, or right before it.

## Main Definitions

* `Cause.Evident` — what the texts before and after the place of an error show of its cause
* `Number.Midway` — how far the scan of a number can have come

## Design Notes

A number is refused where its scan stopped, which is in front of the character at fault, except that
`numberMustEndNumeric` looks back at the last character passed. Every other element is refused where
it starts. Both ways to point are covered by judging a cause with the text on either side of its
place.

`body_cons_cases` says what the scan of a body does at a character, and `Midway` is what it
preserves (`Advances.midway`). It rules out the two ends that the scan of a whole number cannot come to: an end before
the first character, and an end after a separator, which has seen a digit ahead.
-/

namespace Lexeme

/-- What the texts `before` and `after` the place of an error show of its cause. -/
def Cause.Evident (strict : Bool) (before after : List Char) : Cause → Prop
  | unrecognisedToken token =>
    strict = true ∧ ∃ c, after.head? = some c ∧ token = String.ofList [c]
  | malformedBinaryLiteral found | malformedOctalLiteral found | malformedHexLiteral found
  | malformedDecimalLiteral found | invalidBaseMarker found => after.head? = some found
  | multipleFloatDots | floatOnBasePrefixedLiteral =>
    after.head? = some '.' ∧ after.tail.head? ≠ some '.'
  | misplacedOrDuplicateSeparator duplicate =>
    after.head? = some '_' ∧ (duplicate = true ↔ after.tail.head? = some '_')
  | numberMustEndNumeric found =>
    before.getLast? = some found ∧ found ∈ ['.', 'b', 'B', 'o', 'O', 'x', 'X']
  | emptyCharLiteral => ∃ rest, after = Quoted.singleQuote :: Quoted.singleQuote :: rest
  | charLiteralOverflow content =>
    (∃ rest, after = Quoted.singleQuote :: content.toList ++ Quoted.singleQuote :: rest) ∧
      2 ≤ content.length ∧ Quoted.singleQuote ∉ content.toList
  | unterminatedLiteral delimiter =>
    delimiter ∈ [Quoted.singleQuote, Quoted.doubleQuote, Quoted.backquote] ∧
      ∃ rest, after = delimiter :: rest ∧ delimiter ∉ rest
  | unterminatedComment => ∃ rest, after = '/' :: '*' :: rest ∧ ¬['*', '/'] <:+: rest
  -- A scan does not raise these two.
  | unexpectedToken _ | numberParseError _ => False

namespace Number

/-! ## Numbers -/

/-- How far the scan of a body of `form` can have come: `last` has been passed, `rest` is left. -/
inductive Midway (form : Form) : Option Char → List Char → Prop
  /-- Nothing has been passed, and a digit or a separator comes. -/
  | start {c : Char} {rest : List Char} (first : c.isDigit = true ∨ c = '_') :
      Midway form none (c :: rest)
  /-- The number may end here. -/
  | digit {c : Char} {rest : List Char} (accepted : form.accepts c = true) :
      Midway form (some c) rest
  /-- After a separator a digit comes. -/
  | separator {rest : List Char} (next : rest.head?.any Char.isDigit = true) :
      Midway form (some '_') rest
  /-- A point or the letter of a base has been passed. -/
  | opened {c : Char} {rest : List Char} (mem : c ∈ ['.', 'b', 'B', 'o', 'O', 'x', 'X']) :
      Midway form (some c) rest

variable {strict : Bool} {cause : Cause}

/-- A number that must not end where it ends has a point or the letter of a base there. -/
theorem evident_of_close {form : Form} {last : Option Char} {rest before : List Char}
    (midway : Midway form last rest) (stop : ∀ d ∈ rest.head?, d.isDigit = false ∧ d ≠ '_')
    (previous : ∀ c ∈ last, before.getLast? = some c) (refused : close form last = .error cause) :
    cause.Evident strict before rest := by
  cases midway with
  | start first =>
    obtain ⟨notDigit, notSeparator⟩ := stop _ rfl
    rcases first with digit | separator
    · rw [notDigit] at digit
      cases digit
    · exact absurd separator notSeparator
  | digit accepted =>
    rw [close_of_accepts accepted] at refused
    cases refused
  | separator next =>
    obtain ⟨d, here, digit⟩ := (Option.any_eq_true _ _).mp next
    rw [(stop d here).1] at digit
    cases digit
  | @opened c _ mem =>
    by_cases accepted : form.accepts c = true
    · rw [close_of_accepts accepted] at refused
      cases refused
    · have found : Cause.numberMustEndNumeric c = cause := by simpa [close, accepted] using refused
      subst found
      exact ⟨previous c rfl, mem⟩

/-- Behind a character that has been passed, a body is midway. -/
theorem Advances.midway {form form' : Form} {last : Option Char} {c : Char} {rest : List Char}
    (advances : Advances form last c rest form') : Midway form' (some c) rest := by
  cases advances with
  | digit accepted => exact .digit accepted
  | separator _ after => exact .separator after
  | point _ => exact .opened (by simp)

/-- A character that is refused shows why. -/
theorem Refuses.evident {form : Form} {c : Char} {rest : List Char}
    (refuses : Refuses form c rest cause) (before : List Char) :
    cause.Evident strict before (c :: rest) := by
  cases refuses with
  | double second => exact ⟨rfl, by simpa using second⟩
  | misplaced single => exact ⟨rfl, by simpa using single⟩
  | secondPoint _ single => exact ⟨rfl, single⟩
  | markedPoint _ single => exact ⟨rfl, single⟩
  | other _ _ => cases form <;> exact rfl

/-- **The cause that refuses a body** is evident where the scan stopped. -/
theorem evident_of_body {form : Form} {last : Option Char} {source before : List Char}
    (midway : Midway form last source) (previous : ∀ c ∈ last, before.getLast? = some c)
    (refused : (body form last source).outcome = .error cause) :
    cause.Evident strict (before ++ (body form last source).text)
      (source.drop (body form last source).text.length) := by
  induction source generalizing form last before with
  | nil =>
    rw [body] at refused ⊢
    rw [List.append_nil]
    exact evident_of_close midway (by simp) previous refused
  | cons c rest ih =>
    rcases body_cons_cases form last c rest with
      ⟨form', advances⟩ | ⟨ends, stopped⟩ | ⟨cause', refuses, wrong⟩
    · have passed : ∀ d ∈ some c, (before ++ [c]).getLast? = some d := by
        rintro _ ⟨⟩
        exact List.getLast?_concat
      rw [body_of_advances advances] at refused ⊢
      have later := ih advances.midway passed refused
      simpa using later
    · have stop : ∀ d ∈ (c :: rest).head?, d.isDigit = false ∧ d ≠ '_' := fun d mem =>
        (next_of_ends ends d mem).imp_left fun other => (Bool.or_eq_false_iff.mp other).2
      rw [stopped] at refused ⊢
      rw [List.append_nil]
      exact evident_of_close midway stop previous refused
    · rw [wrong] at refused ⊢
      cases refused
      exact refuses.evident _

/-- **The cause that refuses a number** is evident where the scan stopped. -/
theorem evident_of_scan {c : Char} {rest before : List Char} {fault : Fault}
    (starts : Element.startsNumber c rest = true)
    (refused : (scan (c :: rest)).outcome = .error fault) :
    fault.cause.Evident strict (before ++ (scan (c :: rest)).text)
      ((c :: rest).drop (scan (c :: rest)).text.length) := by
  by_cases bare : Bare (c :: rest)
  · rw [scan_of_bare bare] at refused ⊢
    have first : c.isDigit = true ∨ c = '_' := by
      refine ((Bool.or_eq_true _ _).mp starts).imp_right ?_
      intro separator
      exact of_decide_eq_true (Bool.and_eq_true_iff.mp separator).1
    exact evident_of_body (.start first) nofun (fault_of_toScan refused).1
  · obtain ⟨marker, tail, split, letter⟩ := exists_marker_of_not_bare bare
    rw [split] at refused ⊢
    cases known : Form.ofMarker? marker with
    | none =>
      rw [scan_of_no_marker known letter] at refused ⊢
      cases refused
      exact rfl
    | some form =>
      rw [scan_of_marker known] at refused ⊢
      have marks : form.kind.markers ⊆ ['.', 'b', 'B', 'o', 'O', 'x', 'X'] := by
        cases form <;> decide
      have mem := marks ((ofMarker?_eq_some_iff marker form).mp known)
      have passed : ∀ d ∈ some marker, (before ++ ['0', marker]).getLast? = some d := by
        rintro _ ⟨⟩
        simp
      have found : fault.cause.Evident strict _ _ :=
        evident_of_body (.opened mem) passed (fault_of_toScan refused).1
      simpa [Body.toScan] using found

end Number

/-! ## Quoted literals and comments -/

namespace Quoted

/-- Only single quotes delimit a character. -/
theorem kindOf_eq_charLiteral_iff (d : Char) : kindOf d = .charLiteral ↔ d = singleQuote := by
  unfold kindOf
  split
  · next single => simp [single]
  next notSingle =>
  split <;> simp [notSingle]

/-- Content is refused between single quotes only, unless it is one character. -/
theorem judge_eq_error {d : Char} {content : List Char} {fault : Fault}
    (refused : judge d content = .error fault) :
    d = singleQuote ∧
      (content = [] ∧ fault.cause = .emptyCharLiteral ∨
        2 ≤ content.length ∧ fault.cause = .charLiteralOverflow (String.ofList content)) := by
  unfold judge at refused
  split at refused
  · next isChar =>
    refine ⟨(kindOf_eq_charLiteral_iff d).mp isChar, ?_⟩
    split at refused
    · cases refused
      exact .inl ⟨rfl, rfl⟩
    · cases refused
    · next notEmpty notSingle =>
      cases refused
      refine .inr ⟨?_, rfl⟩
      cases content with
      | nil => exact absurd rfl notEmpty
      | cons c rest =>
        cases rest with
        | nil => exact absurd rfl (notSingle c)
        | cons _ _ => exact Nat.le_add_left 2 _
  · cases refused

/-- A quoted literal is refused for its content, or because it does not end. -/
theorem evident_of_scan {strict : Bool} {d : Char} {rest before : List Char} {fault : Fault}
    (starts : Element.startsQuoted d = true)
    (refused : (scan d (d :: rest)).outcome = .error fault) :
    fault.cause.Evident strict before (d :: rest) := by
  by_cases mem : d ∈ rest
  · obtain ⟨content, after, rfl, inside⟩ := List.eq_append_cons_of_mem mem
    rw [scan_of_notMem inside] at refused
    obtain ⟨rfl, ⟨rfl, cause⟩ | ⟨long, cause⟩⟩ := judge_eq_error refused
    · rw [cause]
      exact ⟨after, rfl⟩
    · rw [cause]
      refine ⟨⟨after, ?_⟩, ?_, ?_⟩
      · rw [String.toList_ofList]
        rfl
      · rw [String.length_ofList]
        exact long
      · rw [String.toList_ofList]
        exact inside
  · rw [outcome_scan_of_notMem mem] at refused
    cases refused
    exact ⟨by simpa using Element.startsQuoted_iff.mp starts, rest, rfl, mem⟩

end Quoted

/-- A comment that does not end has no `*/`. -/
theorem Comment.blockLength?_eq_none_iff {text : List Char} :
    blockLength? text = none ↔ ¬['*', '/'] <:+: text := by
  induction text with
  | nil => simp
  | cons c tail ih =>
    rw [blockLength?_cons, List.infix_cons_iff, not_or, ← ih]
    split
    · next here =>
      obtain ⟨rfl, next⟩ := here
      obtain ⟨rest, rfl⟩ := List.head?_eq_some_iff.mp next
      simp
    · next notHere =>
      rw [Option.map_eq_none_iff]
      refine ⟨fun none => ⟨?_, none⟩, And.right⟩
      rintro ⟨rest, starts⟩
      cases starts
      exact notHere ⟨rfl, rfl⟩

namespace Element

/-- **The cause that refuses an element** is evident at the place of the fault. -/
theorem evident_of_first {strict : Bool} {c : Char} {rest : List Char} {fault : Fault}
    (refused : first strict c rest = .error fault) (before : List Char) :
    fault.cause.Evident strict (before ++ fault.ahead) ((c :: rest).drop fault.ahead.length) := by
  have spec := first_spec strict c rest
  generalize first strict c rest = result at spec refused
  cases spec with
  | blank _ => cases refused
  | word _ _ => cases refused
  | number starts =>
    have refused := (ofScan_eq_error_iff _ _).mp refused
    rw [Number.ahead_scan refused]
    exact Number.evident_of_scan starts refused
  | quoted starts =>
    have refused := (ofScan_eq_error_iff _ _).mp refused
    rw [Quoted.ahead_scan refused]
    exact Quoted.evident_of_scan starts refused
  | lineComment _ _ => cases refused
  | blockComment slash next =>
    unfold block at refused
    split at refused <;> cases refused
    next none =>
    obtain ⟨tail, rfl⟩ := List.head?_eq_some_iff.mp next
    subst slash
    exact ⟨tail, rfl, Comment.blockLength?_eq_none_iff.mp none⟩
  | symbol _ _ => cases refused
  | unknown _ _ _ _ _ =>
    split at refused <;> cases refused
    next isStrict =>
    exact ⟨isStrict, c, rfl, rfl⟩

end Element

/-! ## Errors of a scan -/

/-- **Diagnostics are truthful.**  An error stands in the source, and what its cause says is evident
from the characters around its place. -/
theorem evident_of_tokenize (lexer : Lexer) (source file : String) (error : Error)
    (failed : (lexer.tokenize source file).result = .error error) :
    error.position.offset ≤ source.length ∧
      error.cause.Evident lexer.strict (source.toList.take error.position.offset)
        (source.toList.drop error.position.offset) := by
  obtain ⟨elements, fault, cut, rfl⟩ := Lexer.exists_cut_of_error failed
  obtain ⟨c, rest, split, refused⟩ := cut.exists_first_of_some
  have evident := Element.evident_of_first refused (elements.flatMap Element.text)
  obtain ⟨after, ahead⟩ := Element.ahead_isPrefix_of_first refused
  rw [← ahead, List.drop_left] at evident
  have place : (fault.errorAt ((Position.start file).past (elements.flatMap Element.text))
      ).position.offset = (elements.flatMap Element.text ++ fault.ahead).length := by
    simp [Position.start]
  rw [← ahead, ← List.append_assoc] at split
  rw [place, split, List.take_left, List.drop_left]
  refine ⟨?_, evident⟩
  rw [← String.length_toList, split, @List.length_append _ _ after]
  exact Nat.le_add_right _ _

/-- An error that looks back: the letter in front of it announces digits that do not come. -/
theorem evident_of_tokenize_behind_mark :
    ((Lexer.new true).tokenize "1..0x;" "s").result =
        .error ⟨.numberMustEndNumeric 'x', ⟨5, 1, "s"⟩⟩ ∧
      (Cause.numberMustEndNumeric 'x').Evident true ['1', '.', '.', '0', 'x'] [';'] := by
  have cut : Cut true ['1', '.', '.', '0', 'x', ';']
      [.token ⟨.numericLiteral, "1"⟩ ['1'], .verbatim .token ['.', '.']]
      (some ⟨['0', 'x'], .numberMustEndNumeric 'x'⟩) :=
    .moved rfl rfl (.moved rfl rfl (.failed rfl))
  have failed : ((Lexer.new true).tokenize "1..0x;" "s").result =
      .error ⟨.numberMustEndNumeric 'x', ⟨5, 1, "s"⟩⟩ :=
    @Lexer.result_tokenize_of_cut (.new true) "1..0x;" _ _ cut "s"
  exact ⟨failed, (evident_of_tokenize (.new true) "1..0x;" "s" _ failed).2⟩

end Lexeme
