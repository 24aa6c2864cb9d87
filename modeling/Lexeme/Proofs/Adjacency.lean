import Mathlib
import Lexeme.Proofs.Cutting

/-!
# Numbers beside words

Where a number and a word may touch: a word takes every digit behind it, and a number refuses every
ASCII letter behind it that does not belong to it. Only a letter outside ASCII may stand right
behind a number.

## Main Definitions

* `Kind.isNumber` — the kinds of token that are numbers
* `Token.startsWith` — whether the first character of a token is in a class
* `Number.Continues` — the letters that belong to a number in front of them
* `Number.Breaks` — the characters that end any number in front of them

## Design Notes

Words and numbers have letters of their own. Words are made of the letters and numerals of the
Unicode standard, numbers look at ASCII alone, and there the two agree
(`Text.isAlphanumeric_of_isAlphanum`). What `Element.Stops` says of the first token therefore
settles both orders: it is about the first character of the second one.

What may come behind a number is asked of sources that end with the number. Every source with a
number in it starts with one of these, and the number is the last element of its row
(`Lexer.exists_cut_of_last`), in whose place the row of a longer source has a fault or the same
number.
-/

namespace Lexeme

/-- Whether a token of this kind is a number. -/
def Kind.isNumber : Kind → Bool
  | numericLiteral | floatLiteral | binaryLiteral | octalLiteral | hexaLiteral => true
  | _ => false

/-- Whether the first character of a token of `source` is in a class of characters. -/
def Token.startsWith (token : Token) (source : List Char) (inClass : Char → Bool) : Bool :=
  source[token.span.start.offset]?.any inClass

namespace Number

/-- A letter that belongs to a number in front of it: a digit of its base, or the mark of a base
after a lone zero. -/
def Continues (kind : Kind) (number : List Char) (c : Char) : Prop :=
  c ∈ kind.digits ∨ (number = ['0'] ∧ c ∈ ['b', 'B', 'o', 'O', 'x', 'X'])

instance (kind : Kind) (number : List Char) (c : Char) : Decidable (Continues kind number c) :=
  inferInstanceAs (Decidable (_ ∨ _))

/-- A character that ends any number in front of it: no letter or digit of ASCII, no separator and
no point. -/
def Breaks (c : Char) : Prop := c.isAlphanum = false ∧ c ≠ '_' ∧ c ≠ '.'

/-- The letters outside ASCII end a number. -/
theorem breaks_of_isAlphabetic {c : Char} (letter : Text.isAlphabetic c = true)
    (beyond : c.isAlpha = false) : Breaks c := by
  have high : ¬c.toNat < 0xAA := by
    intro below
    rw [Text.isAlphabetic_of_lt below, beyond] at letter
    cases letter
  refine ⟨?_, ?_, ?_⟩
  · have noDigit : c.isDigit = false := by
      apply Bool.eq_false_iff.mpr
      intro digit
      simp only [Char.isDigit, Bool.and_eq_true, decide_eq_true_eq, UInt32.le_iff_toNat_le] at digit
      change 48 ≤ c.toNat ∧ c.toNat ≤ 57 at digit
      omega
    rw [Char.isAlphanum, beyond, noDigit, Bool.or_false]
  · rintro rfl
    exact high (by decide)
  · rintro rfl
    exact high (by decide)

/-- The cause that refuses a letter behind a number: after a lone zero it should have been the mark
of a base, and else a digit. -/
def refusal (form : Form) (number : List Char) (c : Char) : Cause :=
  if number = ['0'] then .invalidBaseMarker c else form.malformed c

/-- A letter that marks no base announces no form. -/
theorem ofMarker?_eq_none {c : Char} (other : c ∉ ['b', 'B', 'o', 'O', 'x', 'X']) :
    Form.ofMarker? c = none := by
  simp only [List.mem_cons, List.not_mem_nil, or_false, not_or] at other
  simp [Form.ofMarker?, other]

/-- **Behind a number an ASCII letter is refused**, unless it belongs to the number. -/
theorem scan_before_letter {kind : Kind} {mark digits : List Char} {c : Char}
    (written : Written kind mark digits) (letter : c.isAlpha = true)
    (other : ¬Continues kind (mark ++ digits) c) (rest : List Char) :
    ∃ form, form.kind = kind ∧ scan (mark ++ digits ++ c :: rest) =
      ⟨mark ++ digits, 0, .error ⟨mark ++ digits, refusal form (mark ++ digits) c⟩⟩ := by
  have alphanum : c.isAlphanum = true := (Bool.or_eq_true _ _).mpr (.inl letter)
  obtain ⟨noDigit, noMark⟩ := not_or.mp other
  by_cases zero : mark ++ digits = ['0']
  · obtain ⟨form, -, kind, -⟩ := @scan_append_of_written _ _ _ [] written (by simp)
    have unknown := ofMarker?_eq_none fun mem => noMark ⟨zero, mem⟩
    refine ⟨form, kind, ?_⟩
    rw [zero, refusal, if_pos rfl]
    exact scan_of_no_marker unknown (by simp [alphanum]) rest
  · obtain ⟨form, digit, rfl, -, -, onward⟩ :=
      @scan_append_of_written _ _ _ (c :: rest) written fun lone => absurd lone zero
    have refused : form.accepts c = false :=
      Bool.eq_false_iff.mpr fun accepted => noDigit ((accepts_iff_mem form c).mp accepted)
    refine ⟨form, rfl, ?_⟩
    rw [onward, body_malformed alphanum refused, refusal, if_neg zero, List.append_nil]
    rfl

end Number

namespace Element

variable {strict : Bool} {c : Char} {rest : List Char} {element : Element} {reading : Reading}

/-- Where a letter stands, a word is read. -/
theorem first_of_isAlphabetic (letter : Text.isAlphabetic c = true) :
    first strict c rest = .ok (word c rest) := by
  have notBlank : Text.isBlank c = false := by
    apply Bool.eq_false_iff.mpr
    intro white
    have other := Text.isAlphanumeric_of_isBlank white
    rw [Text.isAlphanumeric_of_isAlphabetic letter] at other
    cases other
  exact (First.word notBlank letter).first_eq

/-- A number starts with a digit. -/
theorem isDigit_of_isNumber (found : first strict c rest = .ok element)
    (reads : element.reading? = some reading) (number : reading.kind.isNumber = true) :
    c.isDigit = true := by
  cases firstToken_of_first found reads with
  | word _ _ =>
    rcases Keyword.kindOf_cases _ with kind | kind | kind <;> rw [kind] at number <;> cases number
  | number starts ok => exact Number.isDigit_of_scan starts ok
  | quoted _ ok =>
    obtain ⟨-, -, kind, -⟩ := Quoted.exists_content_of_scan ok
    rw [kind, Quoted.kindOf] at number
    repeat' split at number
    all_goals cases number
  | symbol mem =>
    have kinds : Symbol.table.all (fun entry => !entry.2.isNumber) = true := by decide
    have other := List.all_eq_true.mp kinds _ mem
    rw [number] at other
    cases other
  | unknown _ => cases number

/-- What stops a number is where a number may end. -/
theorem Stops.ends {after : List Char} (stops : element.Stops after)
    (reads : element.reading? = some reading) (number : reading.kind.isNumber = true) :
    Number.Ends after := by
  cases element with
  | blank _ | lineComment _ | blockComment _ => cases reads
  | unknown _ => cases reads; cases number
  | token reading text =>
    cases reads
    obtain ⟨kind, value⟩ := reading
    cases kind <;> first | exact stops | cases number

/-- A number that is read is written as a number of its kind. -/
theorem exists_written_of_first (found : first strict c rest = .ok element)
    (reads : element.reading? = some reading) (number : reading.kind.isNumber = true) :
    ∃ mark digits, Number.Written reading.kind mark digits ∧
      element = .token reading (mark ++ digits) := by
  have shape := shape_of_first found reads
  cases element with
  | blank _ | lineComment _ | blockComment _ => cases reads
  | unknown _ => cases reads; cases number
  | token reading' text =>
    cases reads
    obtain ⟨kind, value⟩ := reading
    cases kind <;> first
      | exact absurd number Bool.false_ne_true
      | obtain ⟨mark, digits, written, rfl, -⟩ := shape
        exact ⟨mark, digits, written, rfl⟩

end Element

/-- Right behind the front of a list stands the first of what follows it. -/
theorem getElem?_append_length {α : Type} (front behind : List α) :
    (front ++ behind)[front.length]? = behind.head? := by
  rw [List.getElem?_append_right (Nat.le_refl _), Nat.sub_self, List.head?_eq_getElem?]

/-- A number never ends before an ASCII letter. -/
theorem Number.Ends.isAlpha_eq_false {after : List Char} (ends : Ends after) :
    ∀ c ∈ after.head?, c.isAlpha = false :=
  fun c mem => (Bool.or_eq_false_iff.mp (next_of_ends ends c mem).1).1

namespace Lexer

variable {lexer : Lexer} {source file : String} {tokens : List Token}

/-- A token of a source is read where it starts, and stops where the text that is read does. -/
theorem exists_first_of_mem (ok : (lexer.tokenize source file).result = .ok tokens) {token : Token}
    (mem : token ∈ tokens) :
    ∃ before c rest element after, source.toList = before ++ c :: rest ∧
      c :: rest = element.text ++ after ∧ Element.first lexer.strict c rest = .ok element ∧
      element.reading? = some ⟨token.kind, token.value⟩ ∧
      token.span.start.offset = before.length ∧
      token.span.stop.offset = (before ++ element.text).length := by
  obtain ⟨before, element, after, c, rest, split, covers, found, here⟩ :=
    exists_element_of_mem ok mem
  obtain ⟨reading, reads, rfl⟩ := Option.map_eq_some_iff.mp here
  rw [← covers] at split
  exact ⟨before, c, rest, element, after, split, covers, found, reads, by simp [Position.start],
    by simp [Position.start]⟩

/-- **No ASCII letter stands right behind a number.** -/
theorem not_isAlpha_behind_number (ok : (lexer.tokenize source file).result = .ok tokens)
    {number : Token} (mem : number ∈ tokens) (isNumber : number.kind.isNumber = true) :
    ∀ c ∈ source.toList[number.span.stop.offset]?, c.isAlpha = false := by
  obtain ⟨before, c, rest, element, after, split, covers, found, reads, -, stop⟩ :=
    exists_first_of_mem ok mem
  have ends := (Element.stops_of_first found covers).ends reads isNumber
  rw [split, covers, ← List.append_assoc, stop, getElem?_append_length]
  exact ends.isAlpha_eq_false

/-- **No number starts right behind a word.** -/
theorem stop_ne_start_of_word (ok : (lexer.tokenize source file).result = .ok tokens)
    {word number : Token} (memWord : word ∈ tokens) (memNumber : number ∈ tokens)
    (letter : word.startsWith source.toList Text.isAlphabetic = true)
    (isNumber : number.kind.isNumber = true) :
    word.span.stop.offset ≠ number.span.start.offset := by
  intro touch
  obtain ⟨before, c, rest, element, after, split, covers, found, -, start, stop⟩ :=
    exists_first_of_mem ok memWord
  obtain ⟨before', d, rest', element', -, split', -, found', reads', start', -⟩ :=
    exists_first_of_mem ok memNumber
  have isLetter : Text.isAlphabetic c = true := by
    rwa [Token.startsWith, split, start, getElem?_append_length] at letter
  -- The number starts with the first character behind the word.
  have behind : after = d :: rest' := by
    rw [covers, ← List.append_assoc, split'] at split
    have length : before'.length = (before ++ element.text).length := by rw [← start', ← touch, stop]
    exact (List.append_inj_right split length).symm
  have stops := Element.stops_of_first found covers
  obtain rfl := Except.ok.inj ((Element.first_of_isAlphabetic isLetter).symm.trans found)
  have noWord := (Element.stops_word_iff isLetter _ _ _).mp stops d (by rw [behind]; rfl)
  have digit := Element.isDigit_of_isNumber found' reads' isNumber
  rw [Text.isAlphanumeric, Text.isNumeric_of_isDigit digit, Bool.or_true] at noWord
  cases noWord

/-! ## Behind a number at the end of a source -/

/-- A number at the end of a source is the last element of its row. -/
theorem exists_cut_of_last (ok : (lexer.tokenize source file).result = .ok tokens) {number : Token}
    (mem : number ∈ tokens) (isNumber : number.kind.isNumber = true)
    (last : number.span.stop.offset = source.length) :
    ∃ passed mark digits, Number.Written number.kind mark digits ∧
      Cut lexer.strict source.toList
        (passed ++ [.token ⟨number.kind, number.value⟩ (mark ++ digits)]) none ∧
      tokens = tokensFrom (.start file)
        (passed ++ [.token ⟨number.kind, number.value⟩ (mark ++ digits)]) ∧
      number.span = .of ((Position.start file).past (passed.flatMap Element.text))
        (mark ++ digits) := by
  obtain ⟨elements, cut, rfl⟩ := exists_cut_of_ok ok
  obtain ⟨earlier, behind, split⟩ := List.append_of_mem mem
  obtain ⟨passed, element, later, rfl, -, here⟩ := exists_split_of_tokensFrom split
  have span := Element.span_of_tokenAt? here
  obtain ⟨reading, reads, rfl⟩ := Option.map_eq_some_iff.mp here
  obtain ⟨text, whole, -, back, -⟩ := cut.of_append
  obtain ⟨c, rest, after, rfl, found, covers, tail⟩ := back.of_cons
  obtain ⟨mark, digits, written, rfl⟩ := Element.exists_written_of_first found reads isNumber
  -- Behind the number nothing is left, so there are no further elements.
  obtain rfl : after = [] := by
    rw [← String.length_toList, whole, covers] at last
    simp only [Span.of_stop, Position.past_offset, Position.start, List.length_append,
      Element.text] at last
    exact List.eq_nil_of_length_eq_zero (by omega)
  cases tail
  exact ⟨passed, mark, digits, written, cut, rfl, span⟩

variable {second : String} {c : Char} {number : Token}

/-- The text of a number at the end of a source. -/
theorem drop_eq_of_span {passed : List Element} {text : List Char}
    (whole : source.toList = passed.flatMap Element.text ++ text)
    (span : number.span = .of ((Position.start file).past (passed.flatMap Element.text)) text) :
    source.toList.drop number.span.start.offset = text := by
  rw [whole, span, Span.of_start, Position.past_offset, Position.start, Nat.zero_add, List.drop_left]

/-- **An ASCII letter right behind a number is refused**, unless it belongs to the number. -/
theorem refused_behind_number (ok : (lexer.tokenize source file).result = .ok tokens)
    (mem : number ∈ tokens) (isNumber : number.kind.isNumber = true)
    (last : number.span.stop.offset = source.length) (next : second.toList.head? = some c)
    (letter : c.isAlpha = true)
    (other : ¬Number.Continues number.kind (source.toList.drop number.span.start.offset) c) :
    ∃ form, form.kind = number.kind ∧ (lexer.tokenize (source ++ second) file).result =
      .error ⟨Number.refusal form (source.toList.drop number.span.start.offset) c,
        number.span.stop⟩ := by
  obtain ⟨after, behind⟩ := List.head?_eq_some_iff.mp next
  obtain ⟨passed, mark, digits, written, cut, -, span⟩ := exists_cut_of_last ok mem isNumber last
  obtain ⟨own, whole, front, back, stops⟩ := cut.of_append
  obtain ⟨d, rest, _, rfl, found, -⟩ := back.of_cons
  have text : mark ++ digits = d :: rest := by simpa [Element.text] using back.flatMap_text
  rw [← text] at whole
  rw [drop_eq_of_span whole span] at other ⊢
  obtain ⟨form, kind, scanned⟩ := Number.scan_before_letter written letter other after
  -- In the row of the longer source a fault comes in place of the number.
  have starts : Element.startsNumber d (rest ++ c :: after) = true := by
    have digit := Element.isDigit_of_isNumber found rfl isNumber
    simp [Element.startsNumber, digit]
  have refused : Element.first lexer.strict d (rest ++ c :: after) =
      .error ⟨mark ++ digits, Number.refusal form (mark ++ digits) c⟩ := by
    rw [(Element.First.number starts).first_eq, ← List.cons_append, ← text, scanned]
    rfl
  have longer : Cut lexer.strict (source ++ second).toList passed
      (some ⟨mark ++ digits, Number.refusal form (mark ++ digits) c⟩) := by
    have joined := front.append (.failed refused) fun element mem =>
      (stops element mem).append (List.cons_ne_nil d rest) (c :: after)
    rwa [List.append_nil, ← List.cons_append, ← text, ← List.append_assoc, ← whole, ← behind,
      ← String.toList_append] at joined
  refine ⟨form, kind, ?_⟩
  rw [result_tokenize_of_cut longer, span]
  rfl

/-- **A number ends before any other character**, and what comes there is scanned on its own. -/
theorem kept_before_breaks (ok : (lexer.tokenize source file).result = .ok tokens)
    (mem : number ∈ tokens) (isNumber : number.kind.isNumber = true)
    (last : number.span.stop.offset = source.length) (next : second.toList.head? = some c)
    (breaks : Number.Breaks c) :
    (lexer.tokenize (source ++ second) file).result =
      ((lexer.tokenize second file).result.map fun later =>
        tokens ++ later.map (Token.moved source.length (source.toList.count '\n'))).mapError
        (Error.moved source.length (source.toList.count '\n')) := by
  obtain ⟨after, behind⟩ := List.head?_eq_some_iff.mp next
  obtain ⟨passed, mark, digits, written, cut, rfl, -⟩ := exists_cut_of_last ok mem isNumber last
  obtain ⟨later, fault?, row⟩ := exists_cut lexer.strict second.toList
  have longer : Cut lexer.strict (source ++ second).toList
      (passed ++ [.token ⟨number.kind, number.value⟩ (mark ++ digits)] ++ later) fault? := by
    rw [String.toList_append]
    refine cut.append row fun element final => ?_
    rw [List.getLast?_concat] at final
    cases final
    rw [behind]
    exact (Element.stops_number_iff written _ _ _).mpr (.inl breaks)
  have place : (Position.start file).past source.toList =
      (Position.start file).moved source.length (source.toList.count '\n') := by
    rw [← String.length_toList, Position.moved_eq_past]
  rw [result_tokenize_of_cut longer, result_tokenize_of_cut row, resultFrom_append,
    cut.flatMap_text, place, resultFrom_moved]
  cases resultFrom (.start file) later fault? <;> rfl

end Lexer

/-- A letter outside ASCII ends a number, and a word starts with it. -/
theorem number_touches_word :
    ((Lexer.new true).tokenize "1é" "s").result =
        .ok [⟨.numericLiteral, "1", ⟨⟨0, 1, "s"⟩, ⟨1, 1, "s"⟩⟩⟩,
          ⟨.identifierName, "é", ⟨⟨1, 1, "s"⟩, ⟨2, 1, "s"⟩⟩⟩] ∧
      ¬∀ (lexer : Lexer) (source file : String) (tokens : List Token),
        (lexer.tokenize source file).result = .ok tokens →
        ∀ number ∈ tokens, ∀ word ∈ tokens, number.kind.isNumber = true →
          word.startsWith source.toList Text.isAlphabetic = true →
          number.span.stop.offset ≠ word.span.start.offset := by
  have ok : ((Lexer.new true).tokenize "1é" "s").result =
      .ok [⟨.numericLiteral, "1", ⟨⟨0, 1, "s"⟩, ⟨1, 1, "s"⟩⟩⟩,
        ⟨.identifierName, "é", ⟨⟨1, 1, "s"⟩, ⟨2, 1, "s"⟩⟩⟩] := by cbv
  refine ⟨ok, ?_⟩
  intro apart
  exact apart (.new true) "1é" "s" _ ok _ List.mem_cons_self _
    (List.mem_cons_of_mem _ List.mem_cons_self) rfl (by decide) rfl

/-- **Numbers apart from words.**  Where a number ends no word starts with an ASCII letter, and
where a word ends no number starts. When a source that ends with a number goes on with an ASCII
letter, it is refused there, unless the letter belongs to the number. When it goes on with a
character that is neither a letter or digit of ASCII nor a separator nor a point, the number is kept
and what follows is scanned on its own; letters outside ASCII are such characters. -/
theorem numbers_apart_from_words (lexer : Lexer) (source file : String) (tokens : List Token)
    (ok : (lexer.tokenize source file).result = .ok tokens) (number : Token) (mem : number ∈ tokens)
    (isNumber : number.kind.isNumber = true) :
    (∀ word ∈ tokens,
      (word.startsWith source.toList Char.isAlpha = true →
        number.span.stop.offset ≠ word.span.start.offset) ∧
      (word.startsWith source.toList Text.isAlphabetic = true →
        word.span.stop.offset ≠ number.span.start.offset)) ∧
    (number.span.stop.offset = source.length → ∀ (second : String) (c : Char),
      second.toList.head? = some c →
      (c.isAlpha = true →
        ¬Number.Continues number.kind (source.toList.drop number.span.start.offset) c →
        ∃ form, form.kind = number.kind ∧ (lexer.tokenize (source ++ second) file).result =
          .error ⟨Number.refusal form (source.toList.drop number.span.start.offset) c,
            number.span.stop⟩) ∧
      (Number.Breaks c ∨ (Text.isAlphabetic c = true ∧ c.isAlpha = false) →
        (lexer.tokenize (source ++ second) file).result =
          ((lexer.tokenize second file).result.map fun later =>
            tokens ++ later.map (Token.moved source.length (source.toList.count '\n'))).mapError
            (Error.moved source.length (source.toList.count '\n')))) := by
  refine ⟨?_, ?_⟩
  · intro word memWord
    refine ⟨?_, fun letter => Lexer.stop_ne_start_of_word ok memWord mem letter isNumber⟩
    intro letter touch
    obtain ⟨c, here, isLetter⟩ := (Option.any_eq_true _ _).mp letter
    rw [← touch] at here
    rw [Lexer.not_isAlpha_behind_number ok mem isNumber c here] at isLetter
    cases isLetter
  · intro last second c next
    refine ⟨Lexer.refused_behind_number ok mem isNumber last next, ?_⟩
    rintro (breaks | ⟨letter, beyond⟩)
    · exact Lexer.kept_before_breaks ok mem isNumber last next breaks
    · exact Lexer.kept_before_breaks ok mem isNumber last next
        (Number.breaks_of_isAlphabetic letter beyond)

/-- A word that ends in a digit and a number behind an operator, and that number before a letter of
ASCII and before one outside it. -/
theorem numbers_apart_from_words_around_operator :
    ((Lexer.new true).tokenize "a2+12" "s").result =
        .ok [⟨.identifierName, "a2", ⟨⟨0, 1, "s"⟩, ⟨2, 1, "s"⟩⟩⟩,
          ⟨.operator, "+", ⟨⟨2, 1, "s"⟩, ⟨3, 1, "s"⟩⟩⟩,
          ⟨.numericLiteral, "12", ⟨⟨3, 1, "s"⟩, ⟨5, 1, "s"⟩⟩⟩] ∧
      (5 ≠ 0 ∧ 2 ≠ 3) ∧
      (∃ form : Number.Form, form.kind = .numericLiteral ∧
        ((Lexer.new true).tokenize ("a2+12" ++ "ab") "s").result =
          .error ⟨Number.refusal form ['1', '2'] 'a', ⟨5, 1, "s"⟩⟩) ∧
      ((Lexer.new true).tokenize ("a2+12" ++ "é") "s").result =
        .ok [⟨.identifierName, "a2", ⟨⟨0, 1, "s"⟩, ⟨2, 1, "s"⟩⟩⟩,
          ⟨.operator, "+", ⟨⟨2, 1, "s"⟩, ⟨3, 1, "s"⟩⟩⟩,
          ⟨.numericLiteral, "12", ⟨⟨3, 1, "s"⟩, ⟨5, 1, "s"⟩⟩⟩,
          ⟨.identifierName, "é", ⟨⟨5, 1, "s"⟩, ⟨6, 1, "s"⟩⟩⟩] := by
  have ok : ((Lexer.new true).tokenize "a2+12" "s").result =
      .ok [⟨.identifierName, "a2", ⟨⟨0, 1, "s"⟩, ⟨2, 1, "s"⟩⟩⟩,
        ⟨.operator, "+", ⟨⟨2, 1, "s"⟩, ⟨3, 1, "s"⟩⟩⟩,
        ⟨.numericLiteral, "12", ⟨⟨3, 1, "s"⟩, ⟨5, 1, "s"⟩⟩⟩] := by cbv
  have alone : ((Lexer.new true).tokenize "é" "s").result =
      .ok [⟨.identifierName, "é", ⟨⟨0, 1, "s"⟩, ⟨1, 1, "s"⟩⟩⟩] :=
    @Lexer.result_tokenize_of_cut (.new true) "é" [.verbatim .identifierName ['é']] none
      (.moved (Element.first_of_isAlphabetic (by decide)) rfl .done) "s"
  obtain ⟨apart, behind⟩ := numbers_apart_from_words (.new true) "a2+12" "s" _ ok
    ⟨.numericLiteral, "12", ⟨⟨3, 1, "s"⟩, ⟨5, 1, "s"⟩⟩⟩ (by simp) rfl
  have touching := apart ⟨.identifierName, "a2", ⟨⟨0, 1, "s"⟩, ⟨2, 1, "s"⟩⟩⟩ List.mem_cons_self
  have refused := (behind rfl "ab" 'a' rfl).1 rfl (by decide)
  have kept := (behind rfl "é" 'é' rfl).2 (.inr ⟨by decide, by decide⟩)
  rw [alone] at kept
  exact ⟨ok, ⟨touching.1 (by decide), touching.2 (by decide)⟩, refused, kept⟩

end Lexeme
