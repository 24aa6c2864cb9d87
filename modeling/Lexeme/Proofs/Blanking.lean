import Mathlib
import Lexeme.Proofs.Cutting
import Lexeme.Proofs.Positions

/-!
# Comments are blanks

What stands between the tokens of a source does not matter: a scan finds the same tokens at the same
places when every character outside of them is a space, line ends apart.

## Main Definitions

* `coveredAt` — whether the character at an offset belongs to one of some tokens
* `Text.blankUnless` — a text of which only the characters at some places are kept
* `blankOutside` — a source of which only the characters of some tokens are kept

## Design Notes

`blankOutside` goes by the offsets of the spans, character by character. `Element.blanked` says the
same by the elements of a row: a token stays, a blank or a comment becomes a row of blanks. The two
meet in `blankUnless_coveredAt`. Blanks stop every token, so the blanked row is the row of the
blanked text (`Cut.blanked`); a token that stands right behind another one is still there, and
nothing behind its end matters (`Element.Stops.of_first`).
-/

namespace Lexeme

/-- Whether the character at `offset` of a source belongs to one of `tokens`. -/
def coveredAt (tokens : List Token) (offset : Nat) : Bool :=
  tokens.any fun token =>
    decide (token.span.start.offset ≤ offset) && decide (offset < token.span.stop.offset)

namespace Text

/-- The blank that stands in for a character: a space, or the line end that it is. -/
def toBlank (c : Char) : Char := if c = '\n' then c else ' '

/-- A text in which blanks stand in for all characters but the ones that are kept. -/
def blankUnless (kept : Nat → Bool) (text : List Char) : List Char :=
  text.mapIdx fun i c => if kept i then c else toBlank c

end Text

/-- A source in which blanks stand in for all characters outside of `tokens`. -/
def blankOutside (tokens : List Token) (source : String) : String :=
  String.ofList (Text.blankUnless (coveredAt tokens) source.toList)

/-! ## Blanks -/

namespace Text

theorem isBlank_toBlank (c : Char) : isBlank (toBlank c) = true := by
  unfold toBlank
  split
  · next newline => subst newline; decide
  · decide

/-- Blanking keeps the line ends of a text. -/
theorem count_newline_map_toBlank (text : List Char) :
    (text.map toBlank).count '\n' = text.count '\n' := by
  have same (c : Char) : (toBlank c == '\n') = (c == '\n') := by
    by_cases newline : c = '\n' <;> simp [toBlank, newline]
  simp [List.count, List.countP_map, Function.comp_def, same]

theorem blankUnless_append (kept : Nat → Bool) (text more : List Char) :
    blankUnless kept (text ++ more) =
      blankUnless kept text ++ blankUnless (fun i => kept (text.length + i)) more := by
  simp [blankUnless, List.mapIdx_append, Nat.add_comm]

/-- Only the places of its characters matter to a text. -/
theorem blankUnless_congr {kept kept' : Nat → Bool} {text : List Char}
    (same : ∀ i < text.length, kept i = kept' i) :
    blankUnless kept text = blankUnless kept' text := by
  apply List.ext_getElem
  · simp [blankUnless]
  · intro i inside _
    rw [blankUnless, List.length_mapIdx] at inside
    simp [blankUnless, same i inside]

/-- A text is kept or blanked as a whole. -/
theorem blankUnless_const (kept : Bool) (text : List Char) :
    blankUnless (fun _ => kept) text = if kept then text else text.map toBlank := by
  apply List.ext_getElem
  · cases kept <;> simp [blankUnless]
  · intro i _ _
    cases kept <;> simp [blankUnless]

end Text

/-- Blanks are a row of their own. -/
theorem cut_map_toBlank (strict : Bool) (text : List Char) :
    Cut strict (text.map Text.toBlank) (text.map fun c => Element.blank (Text.toBlank c)) none := by
  induction text with
  | nil => exact .done
  | cons c text ih => exact .moved (Element.First.blank (Text.isBlank_toBlank c)).first_eq rfl ih

/-! ## Blanked rows -/

namespace Element

/-- What an element becomes when everything that is no token is blanked. -/
def blanked (element : Element) : List Element :=
  match element.reading? with
  | some _ => [element]
  | none => element.text.map fun c => .blank (Text.toBlank c)

theorem blanked_of_some {element : Element} {reading : Reading}
    (reads : element.reading? = some reading) : element.blanked = [element] := by
  rw [blanked, reads]

theorem blanked_of_none {element : Element} (silent : element.reading? = none) :
    element.blanked = element.text.map fun c => .blank (Text.toBlank c) := by
  rw [blanked, silent]

/-- The text of a blanked element is its text, blanked unless it is a token. -/
theorem flatMap_text_blanked (element : Element) : element.blanked.flatMap text =
    if element.reading?.isSome then element.text else element.text.map Text.toBlank := by
  cases reads : element.reading? with
  | none =>
    rw [blanked_of_none reads, List.flatMap_map]
    exact List.map_eq_flatMap.symm
  | some reading => simp [blanked_of_some reads]

/-- A blanked element leads to the same place. -/
theorem past_blanked (start : Position) (element : Element) :
    start.past (element.blanked.flatMap text) = start.past element.text := by
  rw [flatMap_text_blanked]
  split
  · rfl
  · simp [Position.past, Text.count_newline_map_toBlank]

end Element

/-- The tokens of a blanked row are the tokens of the row. -/
theorem tokensFrom_blanked (start : Position) (elements : List Element) :
    tokensFrom start (elements.flatMap Element.blanked) = tokensFrom start elements := by
  have blanks (start : Position) (text : List Char) :
      tokensFrom start (text.map fun c => Element.blank (Text.toBlank c)) = [] := by
    induction text generalizing start with
    | nil => rfl
    | cons c text ih => exact ih _
  have one (start : Position) (element : Element) :
      tokensFrom start element.blanked = (element.tokenAt? start).toList := by
    cases reads : element.reading? with
    | none => rw [Element.blanked_of_none reads, blanks, Element.tokenAt?, reads]; rfl
    | some reading => rw [Element.blanked_of_some reads, tokensFrom, tokensFrom, List.append_nil]
  induction elements generalizing start with
  | nil => rfl
  | cons element elements ih =>
    rw [List.flatMap_cons, tokensFrom_append, one, Element.past_blanked, ih, tokensFrom]

/-- What stops a token stops it when it is blanked. -/
theorem Element.Stops.blanked {strict : Bool} {element : Element} {reading : Reading}
    {after : List Char} {elements : List Element} {fault? : Option Fault}
    (stops : element.Stops after) (reads : element.reading? = some reading)
    (cut : Cut strict after elements fault?) :
    element.Stops ((elements.flatMap Element.blanked).flatMap Element.text) := by
  cases elements with
  | nil => exact element.stops_nil
  | cons next elements =>
    obtain ⟨c, rest, behind, rfl, found, split, -⟩ := cut.of_cons
    rw [List.flatMap_cons, List.flatMap_append, flatMap_text_blanked]
    split
    · exact stops.of_first found split _
    · cases covers : next.text with
      | nil => exact absurd covers (text_first_ne_nil found)
      | cons d tail =>
        refine stops_of_isBlank ?_ ?_
        · rintro _ ⟨⟩
          exact Text.isBlank_toBlank d
        · rintro text rfl
          cases reads

/-- **A blanked row is the row of the blanked text.** -/
theorem Cut.blanked {strict : Bool} {text : List Char} {elements : List Element}
    (cut : Cut strict text elements none) :
    Cut strict ((elements.flatMap Element.blanked).flatMap Element.text)
      (elements.flatMap Element.blanked) none := by
  generalize ended : (none : Option Fault) = fault? at cut
  induction cut with
  | done => exact .done
  | failed _ => cases ended
  | @moved c rest after element elements _ found split later ih =>
    subst ended
    rw [List.flatMap_cons, List.flatMap_append]
    cases reads : element.reading? with
    | none =>
      rw [Element.flatMap_text_blanked, reads, Element.blanked_of_none reads]
      refine (cut_map_toBlank strict element.text).append (ih rfl) ?_
      -- A blank may be followed by anything.
      intro last mem
      obtain ⟨c, -, rfl⟩ := List.mem_map.mp (List.mem_of_getLast? mem)
      trivial
    | some reading =>
      have stops := (Element.stops_of_first found split).blanked reads later
      rw [Element.blanked_of_some reads]
      simpa using Cut.cons found stops (ih rfl)

/-! ## The characters outside of tokens -/

theorem coveredAt_eq_true_iff (tokens : List Token) (offset : Nat) :
    coveredAt tokens offset = true ↔
      ∃ token ∈ tokens, token.span.start.offset ≤ offset ∧ offset < token.span.stop.offset := by
  simp [coveredAt]

theorem coveredAt_append (tokens later : List Token) (offset : Nat) :
    coveredAt (tokens ++ later) offset = (coveredAt tokens offset || coveredAt later offset) :=
  List.any_append

/-- An element covers its characters if it is a token, and no other ones. -/
theorem coveredAt_tokenAt? (start : Position) (element : Element) (offset : Nat) :
    coveredAt (element.tokenAt? start).toList offset = true ↔
      element.reading?.isSome = true ∧ start.offset ≤ offset ∧
        offset < start.offset + element.text.length := by
  rw [coveredAt_eq_true_iff, Element.tokenAt?]
  cases element.reading? <;> simp

/-- No token covers a character in front of its row. -/
theorem coveredAt_tokensFrom_of_lt {start : Position} {offset : Nat}
    (before : offset < start.offset) (elements : List Element) :
    coveredAt (tokensFrom start elements) offset = false := by
  apply Bool.eq_false_iff.mpr
  intro covered
  obtain ⟨token, mem, within, -⟩ := (coveredAt_eq_true_iff _ _).mp covered
  obtain ⟨passed, text, -, span⟩ := exists_past_of_mem_tokensFrom mem
  rw [span, Span.of_start, Position.past_offset] at within
  omega

/-- **Blanking by offsets is blanking by elements.** -/
theorem blankUnless_coveredAt (start : Position) (elements : List Element) :
    Text.blankUnless (fun i => coveredAt (tokensFrom start elements) (start.offset + i))
        (elements.flatMap Element.text) =
      (elements.flatMap Element.blanked).flatMap Element.text := by
  induction elements generalizing start with
  | nil => rfl
  | cons element elements ih =>
    -- The characters of the first element are up to it alone, the ones behind it to the others.
    have first : ∀ i < element.text.length,
        coveredAt (tokensFrom start (element :: elements)) (start.offset + i) =
          element.reading?.isSome := by
      intro i inside
      have behind : coveredAt (tokensFrom (start.past element.text) elements) (start.offset + i) =
          false := coveredAt_tokensFrom_of_lt (by simpa using inside) elements
      rw [tokensFrom, coveredAt_append, behind, Bool.or_false, Bool.eq_iff_iff, coveredAt_tokenAt?]
      simp [inside]
    have later : ∀ i < (elements.flatMap Element.text).length,
        coveredAt (tokensFrom start (element :: elements))
            (start.offset + (element.text.length + i)) =
          coveredAt (tokensFrom (start.past element.text) elements)
            ((start.past element.text).offset + i) := by
      intro i _
      have passed : coveredAt (element.tokenAt? start).toList
          (start.offset + (element.text.length + i)) = false := by
        apply Bool.eq_false_iff.mpr
        intro covered
        obtain ⟨-, -, before⟩ := (coveredAt_tokenAt? start element _).mp covered
        omega
      rw [tokensFrom, coveredAt_append, passed, Bool.false_or, Position.past_offset, Nat.add_assoc]
    rw [List.flatMap_cons, List.flatMap_cons, List.flatMap_append, Text.blankUnless_append,
      Text.blankUnless_congr first, Text.blankUnless_const, Text.blankUnless_congr later, ih,
      Element.flatMap_text_blanked]

/-- **Comments are blanks.**  A source is scanned to the same tokens, with the same places, when
every character outside of their spans that is no line end is a space. -/
theorem tokenize_blankOutside (lexer : Lexer) (source file : String) (tokens : List Token)
    (ok : (lexer.tokenize source file).result = .ok tokens) :
    (lexer.tokenize (blankOutside tokens source) file).result = .ok tokens := by
  obtain ⟨elements, cut, rfl⟩ := Lexer.exists_cut_of_ok ok
  have text : (blankOutside (tokensFrom (.start file) elements) source).toList =
      (elements.flatMap Element.blanked).flatMap Element.text := by
    rw [blankOutside, String.toList_ofList, ← cut.flatMap_text,
      ← blankUnless_coveredAt (.start file) elements]
    simp only [Position.start, Nat.zero_add]
  have blanked := cut.blanked
  rw [← text] at blanked
  rw [Lexer.result_tokenize_of_cut blanked, resultFrom, tokensFrom_blanked]

/-- A comment that ends a number, holds a line end and is closed by its second `*/` only. -/
theorem tokenize_blankOutside_of_comments :
    ((Lexer.new true).tokenize "1/*/\n*/../ //x" "s").result =
        .ok [⟨.numericLiteral, "1", ⟨⟨0, 1, "s"⟩, ⟨1, 1, "s"⟩⟩⟩,
          ⟨.token, "..", ⟨⟨7, 2, "s"⟩, ⟨9, 2, "s"⟩⟩⟩,
          ⟨.operator, "/", ⟨⟨9, 2, "s"⟩, ⟨10, 2, "s"⟩⟩⟩] ∧
      ((Lexer.new true).tokenize "1   \n  ../    " "s").result =
        .ok [⟨.numericLiteral, "1", ⟨⟨0, 1, "s"⟩, ⟨1, 1, "s"⟩⟩⟩,
          ⟨.token, "..", ⟨⟨7, 2, "s"⟩, ⟨9, 2, "s"⟩⟩⟩,
          ⟨.operator, "/", ⟨⟨9, 2, "s"⟩, ⟨10, 2, "s"⟩⟩⟩] := by
  have ok : ((Lexer.new true).tokenize "1/*/\n*/../ //x" "s").result =
      .ok [⟨.numericLiteral, "1", ⟨⟨0, 1, "s"⟩, ⟨1, 1, "s"⟩⟩⟩,
        ⟨.token, "..", ⟨⟨7, 2, "s"⟩, ⟨9, 2, "s"⟩⟩⟩,
        ⟨.operator, "/", ⟨⟨9, 2, "s"⟩, ⟨10, 2, "s"⟩⟩⟩] := by cbv
  have text : blankOutside [⟨.numericLiteral, "1", ⟨⟨0, 1, "s"⟩, ⟨1, 1, "s"⟩⟩⟩,
      ⟨.token, "..", ⟨⟨7, 2, "s"⟩, ⟨9, 2, "s"⟩⟩⟩,
      ⟨.operator, "/", ⟨⟨9, 2, "s"⟩, ⟨10, 2, "s"⟩⟩⟩] "1/*/\n*/../ //x" = "1   \n  ../    " := by cbv
  have blanked := tokenize_blankOutside (.new true) "1/*/\n*/../ //x" "s" _ ok
  rw [text] at blanked
  exact ⟨ok, blanked⟩

end Lexeme
