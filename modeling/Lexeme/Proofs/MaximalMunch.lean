import Mathlib
import Lexeme.Proofs.Coverage
import Lexeme.Proofs.Cutting

/-!
# The longest token

A token is the longest one that there is where it starts: no longer part of the source from there is
a single token.

## Main Definitions

* `Lexer.SingleToken` — a text that is scanned to one token, which spans all of it

## Design Notes

A longer part of the source ends somewhere behind the token, so the token is followed by something
else in it than in the source. Numbers apart, only the first character of what follows a token
matters, and that is the same (`Element.stops_of_head?`), so the token is read there again and does
not span the part. A number looks at two characters: `1` ends before `..`, but not before a lone
point. Then the part is the number and a point, and no number ends with a point
(`Number.Written.getLast?_ne_point`).
-/

namespace Lexeme

/-- A text that is scanned to a single token, which spans the whole of it. -/
def Lexer.SingleToken (lexer : Lexer) (file : String) (text : List Char) : Prop :=
  ∃ token, (lexer.tokenize (String.ofList text) file).result = .ok [token] ∧
    token.span.start.offset = 0 ∧ token.span.stop.offset = text.length

/-! ## Numbers -/

namespace Number

/-- There are no points among digits and separators. -/
theorem IsBody.point_notMem {kind : Kind} {text : List Char} (body : IsBody kind.digits text) :
    '.' ∉ text := by
  intro mem
  rcases body.mem '.' mem with digit | separator
  · exact (ne_of_mem_digits digit).2.1 rfl
  · exact absurd separator (by decide)

/-- No written number ends with a point. -/
theorem Written.getLast?_ne_point {kind : Kind} {mark digits : List Char}
    (written : Written kind mark digits) : (mark ++ digits).getLast? ≠ some '.' := by
  intro last
  cases written with
  | decimal integer => exact integer.body.point_notMem (List.mem_of_getLast? last)
  | @float whole fraction _ nonempty body =>
    rw [List.nil_append, List.append_cons, List.getLast?_append_of_ne_nil _ nonempty] at last
    exact body.point_notMem (List.mem_of_getLast? last)
  | marked _ nonempty body =>
    rw [List.getLast?_append_of_ne_nil _ nonempty] at last
    exact body.point_notMem (List.mem_of_getLast? last)

/-- A number that may end before a text may end before the front of it, unless that is one of two
points. -/
theorem Ends.of_append {more behind : List Char} (ends : Ends (more ++ behind)) :
    Ends more ∨ more = ['.'] := by
  cases more with
  | nil => exact .inl trivial
  | cons d more =>
    rcases ends with other | ⟨rfl, second⟩
    · exact .inl (.inl other)
    · cases more with
      | nil => exact .inr rfl
      | cons e more => exact .inl (.inr ⟨rfl, second⟩)

/-- A number in front of more text is not the beginning of a longer number that ends in that
text. -/
theorem Written.eq_nil_of_append {kind kind' : Kind} {mark mark' digits digits' : List Char}
    {more behind : List Char} (written : Written kind mark digits) (ends : Ends (more ++ behind))
    (longer : Written kind' mark' digits') (same : mark ++ digits ++ more = mark' ++ digits') :
    more = [] := by
  rcases ends.of_append with ends | rfl
  · have ended : Ends [] := trivial
    rw [← List.append_nil (mark' ++ digits')] at same
    obtain ⟨-, rfl, rfl⟩ := written.unique ends longer ended same
    exact List.append_cancel_left same
  · refine absurd ?_ longer.getLast?_ne_point
    rw [← same, List.getLast?_concat]

end Number

/-! ## Elements -/

namespace Element

section Longer

variable {strict : Bool} {c : Char} {tail after : List Char} {element : Element}

/-- Numbers apart, an element is stopped by the first character of what follows it. -/
theorem stops_of_head? (found : first strict c (tail ++ after) = .ok element)
    (covers : element.text = c :: tail) (noNumber : startsNumber c (tail ++ after) = false)
    {after' : List Char} (same : after'.head? = after.head?) : element.Stops after' := by
  have stops := (stops_and_first_of_stops found covers).1
  have spec := first_spec strict c (tail ++ after)
  generalize first strict c (tail ++ after) = result at spec found
  cases spec with
  | blank _ => cases found; trivial
  | word _ letter =>
    cases found
    rw [word, stops_word_iff letter] at stops ⊢
    rwa [same]
  | number starts => rw [noNumber] at starts; cases starts
  | quoted _ =>
    obtain ⟨reading, ok, rfl⟩ := (ofScan_eq_ok_iff _ _).mp found
    obtain ⟨-, -, kind, -⟩ := Quoted.exists_content_of_scan ok
    exact stops_quoted kind _ _
  | lineComment _ _ =>
    cases found
    intro d mem
    exact stops d (same ▸ mem)
  | blockComment _ _ =>
    unfold block at found
    split at found <;> cases found
    trivial
  | symbol _ read =>
    cases found
    rw [stops_symbol_iff (Symbol.mem_table_of_read? read)] at stops ⊢
    rwa [same]
  | unknown _ _ _ _ _ =>
    split at found <;> cases found
    intro separator d mem
    exact stops separator d (same ▸ mem)

/-- **An element is the longest one**: where it is read, no longer front of the text is an
element. -/
theorem text_ne_of_longer {more behind : List Char} {other : Element}
    (found : first strict c (tail ++ (more ++ behind)) = .ok element)
    (covers : element.text = c :: tail) (nonempty : more ≠ [])
    (longer : first strict c (tail ++ more) = .ok other) : other.text ≠ c :: tail ++ more := by
  intro whole
  by_cases starts : startsNumber c (tail ++ (more ++ behind)) = true
  · rw [(First.number starts).first_eq] at found
    obtain ⟨reading, ok, rfl⟩ := (ofScan_eq_ok_iff _ _).mp found
    have digit := Number.isDigit_of_scan starts ok
    rw [(First.number (by simp [startsNumber, digit])).first_eq] at longer
    obtain ⟨reading', ok', rfl⟩ := (ofScan_eq_ok_iff _ _).mp longer
    obtain ⟨kind, mark, digits, text, written, ends⟩ :=
      @Number.exists_written_of_scan_append (c :: tail) _ _ ok covers
    rw [← List.append_nil (c :: (tail ++ more))] at ok' whole
    obtain ⟨kind', mark', digits', text', written', -⟩ :=
      Number.exists_written_of_scan_append ok' whole
    rw [← List.cons_append, text] at text'
    exact nonempty (written.eq_nil_of_append ends written' text')
  · have same : more.head? = (more ++ behind).head? := by
      cases more with
      | nil => exact absurd rfl nonempty
      | cons d more => rfl
    have stops := stops_of_head? found covers (Bool.eq_false_iff.mpr starts) same
    rw [(first_append_iff_stops found covers more).mpr stops] at longer
    cases longer
    exact nonempty (List.append_right_eq_self.mp (whole.symm.trans covers))

end Longer

end Element

/-! ## Single tokens -/

/-- A single token is the first element of its text, and covers all of it. -/
theorem Lexer.SingleToken.exists_first {lexer : Lexer} {file : String} {text : List Char}
    (single : lexer.SingleToken file text) :
    ∃ c rest element, text = c :: rest ∧ Element.first lexer.strict c rest = .ok element ∧
      element.text = text := by
  obtain ⟨token, ok, start, stop⟩ := single
  obtain ⟨elements, cut, found⟩ := Lexer.exists_cut_of_ok ok
  obtain ⟨passed, element, later, rfl, -, here⟩ :=
    exists_split_of_tokensFrom (show _ = [] ++ token :: [] from found.symm)
  rw [String.toList_ofList] at cut
  obtain ⟨after, split, -, back, -⟩ := cut.of_append
  obtain ⟨c, rest, behind, rfl, first, covers, -⟩ := back.of_cons
  -- The token starts with the text and is as long as the text.
  have span := Element.span_of_tokenAt? here
  have front : (passed.flatMap Element.text).length = 0 := by
    simpa [span, Position.start] using start
  have length : element.text.length = text.length := by
    simpa [span, Position.start, front] using stop
  rw [List.eq_nil_of_length_eq_zero front, List.nil_append] at split
  subst split
  rw [covers, List.length_append] at length
  have ended : behind = [] := List.eq_nil_of_length_eq_zero (by omega)
  exact ⟨c, rest, element, rfl, first, by rw [covers, ended, List.append_nil]⟩

/-- An element that is a token is a single token on its own. -/
theorem Cut.singleToken {lexer : Lexer} {element : Element} {token : Token} {start : Position}
    (cut : Cut lexer.strict element.text [element] none)
    (here : element.tokenAt? start = some token) (file : String) : lexer.SingleToken file element.text := by
  obtain ⟨reading, reads, -⟩ := Option.map_eq_some_iff.mp here
  rw [← String.toList_ofList (l := element.text)] at cut
  refine ⟨⟨reading.kind, reading.value, .of (.start file) element.text⟩, ?_, rfl, ?_⟩
  · rw [Lexer.result_tokenize_of_cut cut, resultFrom, tokensFrom, Element.tokenAt?, reads]
    rfl
  · simp [Position.start]

/-- No longer text is a single token where an element is read. -/
theorem Lexer.not_singleToken_of_longer {lexer : Lexer} {c : Char} {rest more behind : List Char}
    {element : Element} (found : Element.first lexer.strict c rest = .ok element)
    (split : c :: rest = element.text ++ (more ++ behind)) (nonempty : more ≠ []) (file : String) :
    ¬lexer.SingleToken file (element.text ++ more) := by
  intro single
  obtain ⟨d, rest', other, text, longer, whole⟩ := single.exists_first
  obtain ⟨tail, covers, rfl⟩ := Element.exists_tail_of_first found split
  rw [covers] at text whole
  obtain ⟨rfl, rfl⟩ : c = d ∧ tail ++ more = rest' := List.cons.inj text
  exact Element.text_ne_of_longer found covers nonempty longer whole

/-- **Maximal munch.**  Every token is the longest part of the source from its start that is a
single token: its own text is one, and no longer part is. -/
theorem tokenize_longest (lexer : Lexer) (source file other : String) (tokens : List Token)
    (ok : (lexer.tokenize source file).result = .ok tokens) (token : Token) (mem : token ∈ tokens) :
    lexer.SingleToken other
        (slice source.toList token.span.start.offset token.span.stop.offset) ∧
      ∀ stop, token.span.stop.offset < stop → stop ≤ source.length →
        ¬lexer.SingleToken other (slice source.toList token.span.start.offset stop) := by
  obtain ⟨before, element, after, c, rest, split, covers, found, here⟩ :=
    Lexer.exists_element_of_mem ok mem
  have span := Element.span_of_tokenAt? here
  have start : token.span.start.offset = before.length := by simp [span, Position.start]
  have last : token.span.stop.offset = before.length + element.text.length := by
    simp [span, Position.start]
  refine ⟨?_, ?_⟩
  · rw [split, ← List.append_assoc, slice_of_append start last]
    exact (Cut.alone found).singleToken here other
  · intro stop longer within
    rw [last] at longer
    rw [← String.length_toList, split, List.length_append, List.length_append] at within
    -- The part ends behind the first `n` characters after the token.
    obtain ⟨n, rfl⟩ := Nat.exists_eq_add_of_lt longer
    have more : (after.take (n + 1)).length = n + 1 := by
      rw [List.length_take]
      omega
    rw [← List.take_append_drop (n + 1) after] at split covers
    have part : slice source.toList token.span.start.offset
        (before.length + element.text.length + n + 1) = element.text ++ after.take (n + 1) := by
      rw [split, ← List.append_assoc element.text, ← List.append_assoc]
      refine slice_of_append start ?_
      rw [List.length_append, more]
      omega
    rw [part]
    refine Lexer.not_singleToken_of_longer found covers ?_ other
    exact List.ne_nil_of_length_pos (by omega)

/-- A number ends before two points, and with one of them it is no token. -/
theorem tokenize_longest_before_points :
    ((Lexer.new true).tokenize "1..5" "s").result =
        .ok [⟨.numericLiteral, "1", ⟨⟨0, 1, "s"⟩, ⟨1, 1, "s"⟩⟩⟩,
          ⟨.token, "..", ⟨⟨1, 1, "s"⟩, ⟨3, 1, "s"⟩⟩⟩,
          ⟨.numericLiteral, "5", ⟨⟨3, 1, "s"⟩, ⟨4, 1, "s"⟩⟩⟩] ∧
      (Lexer.new true).SingleToken "t" ['1'] ∧ ¬(Lexer.new true).SingleToken "t" ['1', '.'] ∧
      ¬(Lexer.new true).SingleToken "t" ['.', '.', '5'] := by
  have ok : ((Lexer.new true).tokenize "1..5" "s").result =
      .ok [⟨.numericLiteral, "1", ⟨⟨0, 1, "s"⟩, ⟨1, 1, "s"⟩⟩⟩,
        ⟨.token, "..", ⟨⟨1, 1, "s"⟩, ⟨3, 1, "s"⟩⟩⟩,
        ⟨.numericLiteral, "5", ⟨⟨3, 1, "s"⟩, ⟨4, 1, "s"⟩⟩⟩] := by cbv
  have number := tokenize_longest (.new true) "1..5" "s" "t" _ ok _ (List.mem_cons_self)
  have points := tokenize_longest (.new true) "1..5" "s" "t" _ ok _
    (List.mem_cons_of_mem _ List.mem_cons_self)
  exact ⟨ok, number.1, number.2 2 (by decide) (by decide), points.2 4 (by decide) (by decide)⟩

end Lexeme
