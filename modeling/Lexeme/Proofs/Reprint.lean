import Mathlib
import Lexeme.Proofs.Boundaries

/-!
# Printing tokens

A token keeps a kind and a value, which is not always the text it was read from: quotes, the marks
of bases, separators, comments and blanks are gone. Enough is left to write the token again. Tokens
printed with a space between two are read back, whatever they were read from.

## Main Definitions

* `Reading.written` — how a kind and a value are written
* `reprint` — tokens printed one after another

## Design Notes

Most elements are printed with the characters they were read from, and an element is read from its
own text alone (`Cut.alone`). Numbers are the exception, since they lose their separators and may
change the letter of their base. There the grammar helps: a written number without its separators is
a written number (`Number.Written.plain`).

A space stops every element but a line comment, and comments are no tokens. So `Cut.append` puts the
printed tokens together, and what a token could do to its neighbour never matters.
-/

namespace Lexeme

namespace Kind

/-- What is printed before a value: the mark of a base or an opening quote. -/
def opening : Kind → List Char
  | binaryLiteral => ['0', 'b']
  | octalLiteral => ['0', 'o']
  | hexaLiteral => ['0', 'x']
  | charLiteral => [Quoted.singleQuote]
  | stringLiteral => [Quoted.doubleQuote]
  | templateString => [Quoted.backquote]
  | _ => []

/-- What is printed after a value: a closing quote. -/
def closing : Kind → List Char
  | charLiteral => [Quoted.singleQuote]
  | stringLiteral => [Quoted.doubleQuote]
  | templateString => [Quoted.backquote]
  | _ => []

end Kind

/-- How a kind and a value are written. -/
def Reading.written (reading : Reading) : List Char :=
  reading.kind.opening ++ reading.value.toList ++ reading.kind.closing

/-- The kind and value of a token. -/
def Token.reading (token : Token) : Reading := ⟨token.kind, token.value⟩

/-- Tokens printed one after another, with a space between two. -/
def reprint (tokens : List Token) : String :=
  String.ofList ([' '].intercalate (tokens.map fun token => token.reading.written))

/-! ## Numbers -/

namespace Number

/-- A body without its separators is a body. -/
theorem IsBody.plain {digits text : List Char} (body : IsBody digits text) :
    IsBody digits (text.filter (· ≠ '_')) where
  mem c mem := .inl (body.mem_digits c mem)
  separated before after split := by
    have mem : '_' ∈ text.filter (· ≠ '_') := by
      rw [split]
      exact List.mem_append_right before List.mem_cons_self
    exact absurd (List.mem_filter.mp mem).2 (by decide)

/-- A decimal integer without its separators is a decimal integer. -/
theorem IsWhole.plain {text : List Char} (integer : IsWhole text) :
    IsWhole (text.filter (· ≠ '_')) where
  ne_nil := integer.body.filter_ne_nil integer.ne_nil
  body := integer.body.plain
  leading := by
    rcases integer.leading with rfl | noZero
    · exact .inl rfl
    · rw [integer.body.head?_filter]
      exact .inr noZero

/-- **A written number without its separators is a written number** of the same kind. -/
theorem Written.plain {kind : Kind} {mark digits : List Char} (written : Written kind mark digits) :
    Written kind kind.opening (digits.filter (· ≠ '_')) := by
  cases written with
  | decimal integer => exact .decimal integer.plain
  | @float whole fraction integer nonempty body =>
    rw [filter_append_point]
    refine .float (integer.imp ?_ IsWhole.plain) (body.filter_ne_nil nonempty) body.plain
    rintro rfl
    rfl
  | marked mem nonempty body =>
    have plain {marker : Char} (mem : marker ∈ kind.markers) := Written.marked mem
      (body.filter_ne_nil nonempty) body.plain
    cases kind with
    | binaryLiteral | octalLiteral | hexaLiteral => exact plain List.mem_cons_self
    | _ => cases mem

/-- Printing a number keeps its first character. -/
theorem Written.head?_plain {kind : Kind} {mark digits : List Char}
    (written : Written kind mark digits) :
    (kind.opening ++ digits.filter (· ≠ '_')).head? = (mark ++ digits).head? := by
  cases written with
  | decimal integer => exact integer.body.head?_filter
  | @float whole fraction integer nonempty body =>
    rcases integer with rfl | integer
    · rfl
    · have noMark : Kind.floatLiteral.opening = [] := rfl
      rw [filter_append_point, noMark, List.nil_append, List.nil_append, List.head?_append,
        List.head?_append, integer.body.head?_filter]
      rfl
  | marked mem _ _ =>
    cases kind with
    | binaryLiteral | octalLiteral | hexaLiteral => rfl
    | _ => cases mem

/-- A number is printed as its mark and its digits. -/
theorem Written.written_eq {kind : Kind} {mark digits : List Char}
    (written : Written kind mark digits) :
    (Reading.mk kind (String.ofList (digits.filter (· ≠ '_')))).written =
      kind.opening ++ digits.filter (· ≠ '_') := by
  have noClosing : kind.closing = [] := by
    cases written with
    | decimal _ => rfl
    | float _ _ _ => rfl
    | marked mem _ _ => cases kind <;> first | rfl | cases mem
  rw [Reading.written, noClosing, List.append_nil, String.toList_ofList]

end Number

/-! ## Elements on their own -/

section Rules

variable {strict : Bool} {c : Char} {rest : List Char} {element : Element} {reading : Reading}

/-- A written number on its own is one element. -/
theorem Number.first_of_written {kind : Kind} {mark digits : List Char}
    (written : Written kind mark digits) (cons : mark ++ digits = c :: rest)
    (starts : Element.startsNumber c rest = true) :
    Element.first strict c rest =
      .ok (.token ⟨kind, String.ofList (digits.filter (· ≠ '_'))⟩ (c :: rest)) := by
  have scan := @scan_of_written _ _ _ [] written trivial
  rw [List.append_nil, cons] at scan
  rw [(Element.First.number starts).first_eq, scan]
  rfl

/-- A number is read again from its digits alone. -/
theorem Number.exists_cut_written (starts : Element.startsNumber c rest = true)
    (ok : (scan (c :: rest)).outcome = .ok reading) :
    ∃ again, Cut strict reading.written [again] none ∧ again.reading? = some reading := by
  have digit := isDigit_of_scan starts ok
  have nonempty := text_scan_ne_nil ok
  obtain ⟨kind, mark, digits, after, split, written, ends⟩ := exists_written_of_scan ok
  rw [split, scan_of_written written ends] at ok nonempty
  cases ok
  rw [written.written_eq]
  obtain ⟨tail, plain⟩ : ∃ tail, kind.opening ++ digits.filter (· ≠ '_') = c :: tail := by
    apply List.head?_eq_some_iff.mp
    rw [written.head?_plain, ← List.head?_append_of_ne_nil _ nonempty, ← split]
    rfl
  have first := @first_of_written strict c tail _ _ _ written.plain plain
    (by simp [Element.startsNumber, digit])
  simp only [List.filter_filter, Bool.and_self] at first
  rw [plain]
  exact ⟨_, Cut.alone first, rfl⟩

/-- An element is printed as it is written, numbers apart. -/
theorem Element.text_eq_written (found : first strict c rest = .ok element)
    (reads : element.reading? = some reading) (other : startsNumber c rest = false) :
    element.text = reading.written := by
  cases firstToken_of_first found reads with
  | @word text _ _ =>
    rcases Keyword.kindOf_cases (String.ofList text) with kind | kind | kind <;> rw [kind] <;>
      simp [Reading.written, Kind.opening, Kind.closing]
  | number starts _ => rw [other] at starts; cases starts
  | quoted starts ok =>
    obtain ⟨content, ⟨text, -⟩, kind, value, -⟩ := Quoted.exists_content_of_scan ok
    have both : reading.kind.opening = [c] ∧ reading.kind.closing = [c] := by
      rw [kind]
      rcases startsQuoted_iff.mp starts with rfl | rfl | rfl <;> exact ⟨rfl, rfl⟩
    rw [Reading.written, both.1, both.2, value]
    exact text
  | symbol mem =>
    have kinds : Symbol.table.all (fun entry => entry.2.opening = [] ∧ entry.2.closing = []) := by
      decide
    have plain := of_decide_eq_true (List.all_eq_true.mp kinds _ mem)
    simp [Reading.written, plain]
  | unknown _ => simp [Reading.written, Kind.opening, Kind.closing, text]

/-- **A token is read again** from the way its kind and value are written. -/
theorem exists_cut_written (found : Element.first strict c rest = .ok element)
    (reads : element.reading? = some reading) :
    ∃ again, Cut strict reading.written [again] none ∧ again.reading? = some reading := by
  by_cases starts : Element.startsNumber c rest = true
  · rw [(Element.First.number starts).first_eq] at found
    obtain ⟨reading, ok, rfl⟩ := (Element.ofScan_eq_ok_iff _ _).mp found
    cases reads
    exact Number.exists_cut_written starts ok
  · rw [← Element.text_eq_written found reads (Bool.eq_false_iff.mpr starts)]
    exact ⟨element, Cut.alone found, reads⟩

end Rules

/-! ## Rows -/

/-- What is read in a row of elements is what its tokens say. -/
theorem map_reading_tokensFrom (start : Position) (elements : List Element) :
    (tokensFrom start elements).map Token.reading = elements.filterMap Element.reading? := by
  induction elements generalizing start with
  | nil => rfl
  | cons element elements ih =>
    rw [tokensFrom, List.map_append, ih, List.filterMap_cons]
    unfold Element.tokenAt?
    cases element.reading? <;> rfl

/-- Texts that are each read as one token are read one after another with spaces between them. -/
theorem exists_cut_intercalate {strict : Bool} {readings : List Reading}
    (each : ∀ reading ∈ readings, ∃ again, Cut strict reading.written [again] none ∧
      again.reading? = some reading) :
    ∃ elements, Cut strict ([' '].intercalate (readings.map Reading.written)) elements none ∧
      elements.filterMap Element.reading? = readings := by
  induction readings with
  | nil => exact ⟨[], .done, rfl⟩
  | cons reading readings ih =>
    obtain ⟨⟨again, cut, reads⟩, each⟩ := List.forall_mem_cons.mp each
    obtain ⟨elements, later, same⟩ := ih each
    cases readings with
    | nil => exact ⟨[again], by simpa using cut, by simp [reads]⟩
    | cons next readings =>
      have space : Cut strict (' ' :: [' '].intercalate ((next :: readings).map Reading.written))
          (.blank ' ' :: elements) none := .moved rfl rfl later
      refine ⟨again :: .blank ' ' :: elements, ?_, ?_⟩
      · have stops : ∀ element ∈ [again].getLast?, element.Stops
            (' ' :: [' '].intercalate ((next :: readings).map Reading.written)) := by
          rintro _ ⟨⟩
          refine Element.stops_of_isBlank ?_ ?_
          · rintro _ ⟨⟩
            rfl
          · rintro text rfl
            cases reads
        have joined := cut.append space stops
        rw [List.map_cons, List.map_cons, List.intercalate_cons_cons]
        simpa using joined
      · rw [List.filterMap_cons_some reads, List.filterMap_cons_none rfl, same]

/-- **Printing and scanning again.**  The tokens of a source, printed with a space between two, are
read again with the kinds and values they have, under the same setting. -/
theorem tokenize_reprint (lexer : Lexer) (source file again : String) (tokens : List Token)
    (ok : (lexer.tokenize source file).result = .ok tokens) :
    ∃ printed, (lexer.tokenize (reprint tokens) again).result = .ok printed ∧
      printed.map Token.reading = tokens.map Token.reading := by
  obtain ⟨elements, cut, rfl⟩ := Lexer.exists_cut_of_ok ok
  have each : ∀ reading ∈ elements.filterMap Element.reading?,
      ∃ again, Cut lexer.strict reading.written [again] none ∧ again.reading? = some reading := by
    intro reading mem
    obtain ⟨element, mem, reads⟩ := List.mem_filterMap.mp mem
    obtain ⟨c, rest, found⟩ := cut.exists_first_of_mem mem
    exact exists_cut_written found reads
  obtain ⟨later, cut, same⟩ := exists_cut_intercalate each
  have text : (reprint (tokensFrom (.start file) elements)).toList =
      [' '].intercalate ((elements.filterMap Element.reading?).map Reading.written) := by
    rw [reprint, String.toList_ofList, ← map_reading_tokensFrom (.start file), List.map_map]
    rfl
  rw [← text] at cut
  refine ⟨tokensFrom (.start again) later, Lexer.result_tokenize_of_cut cut again, ?_⟩
  rw [map_reading_tokensFrom, map_reading_tokensFrom, same]

/-- A large letter and a separator go, and a number that two points have ended stays a number. -/
theorem tokenize_reprint_of_range :
    ((Lexer.new true).tokenize "0B1_0..1/**/'x'" "s").result =
        .ok [⟨.binaryLiteral, "10", ⟨⟨0, 1, "s"⟩, ⟨5, 1, "s"⟩⟩⟩,
          ⟨.token, "..", ⟨⟨5, 1, "s"⟩, ⟨7, 1, "s"⟩⟩⟩,
          ⟨.numericLiteral, "1", ⟨⟨7, 1, "s"⟩, ⟨8, 1, "s"⟩⟩⟩,
          ⟨.charLiteral, "x", ⟨⟨12, 1, "s"⟩, ⟨15, 1, "s"⟩⟩⟩] ∧
      ∃ printed, ((Lexer.new true).tokenize "0b10 .. 1 'x'" "t").result = .ok printed ∧
        printed.map Token.reading = [⟨.binaryLiteral, "10"⟩, ⟨.token, ".."⟩,
          ⟨.numericLiteral, "1"⟩, ⟨.charLiteral, "x"⟩] := by
  have ok : ((Lexer.new true).tokenize "0B1_0..1/**/'x'" "s").result =
      .ok [⟨.binaryLiteral, "10", ⟨⟨0, 1, "s"⟩, ⟨5, 1, "s"⟩⟩⟩,
        ⟨.token, "..", ⟨⟨5, 1, "s"⟩, ⟨7, 1, "s"⟩⟩⟩,
        ⟨.numericLiteral, "1", ⟨⟨7, 1, "s"⟩, ⟨8, 1, "s"⟩⟩⟩,
        ⟨.charLiteral, "x", ⟨⟨12, 1, "s"⟩, ⟨15, 1, "s"⟩⟩⟩] := by cbv
  have printed := tokenize_reprint (.new true) "0B1_0..1/**/'x'" "s" "t" _ ok
  exact ⟨ok, printed⟩

end Lexeme
