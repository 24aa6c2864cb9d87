import Mathlib
import Lexeme.Proofs.Spelling

/-!
# Coverage

Tokens and skipped text together are the whole source: no character is dropped and none is read
twice.

## Main Definitions

* `slice` — the characters of a source between two offsets
* `gapsFrom` — the stretches before, between and after the tokens of a list
* `Kind.Spells` — how the source under a token determines its value
* `Covers` — a text as skipped text and tokens in turn

## Design Notes

`Covers` follows the text and says where each token stands as it is met, so a run builds it one
element at a time (`covers_of_cut`). The statements about offsets are read off it afterwards, with
the text before the place at hand as the induction's parameter.
-/

namespace Lexeme

/-- The characters of a source from offset `start` up to, not including, `stop`. -/
def slice (source : List Char) (start stop : Nat) : List Char := (source.take stop).drop start

/-- The stretches of a source of `length` characters that lie outside the spans of `tokens`, from
`offset` on: before the first token, between two tokens and after the last one. -/
def gapsFrom (offset length : Nat) : List Token → List (Nat × Nat)
  | [] => [(offset, length)]
  | token :: tokens =>
    (offset, token.span.start.offset) :: gapsFrom token.span.stop.offset length tokens

/-- How the source under a token of a kind determines its value. -/
def Kind.Spells (kind : Kind) (value text : List Char) : Prop :=
  match kind with
  | .identifierName | .statement | .operator | .token | .unknown => text = value
  | .charLiteral => Quoted.Encloses Quoted.singleQuote value text ∧ value.length = 1
  | .stringLiteral => Quoted.Encloses Quoted.doubleQuote value text
  | .templateString => Quoted.Encloses Quoted.backquote value text
  | .numericLiteral | .floatLiteral => text.filter (· ≠ '_') = value
  | .binaryLiteral | .octalLiteral | .hexaLiteral =>
    ∃ marker ∈ kind.markers, text.filter (· ≠ '_') = '0' :: marker :: value

/-- `Covers offset text tokens`: at `offset` of a source stands `text`, which is skipped text and
`tokens` in turn. -/
inductive Covers : Nat → List Char → List Token → Prop
  | last {offset : Nat} {gap : List Char} (skipped : Skipped gap []) : Covers offset gap []
  | token {offset : Nat} {gap word after : List Char} {token : Token} {tokens : List Token}
      (skipped : Skipped gap (word ++ after)) (nonempty : word ≠ [])
      (start : token.span.start.offset = offset + gap.length)
      (stop : token.span.stop.offset = offset + gap.length + word.length)
      (shape : token.kind.Shape token.value.toList word)
      (later : Covers (offset + gap.length + word.length) after tokens) :
      Covers offset (gap ++ word ++ after) (token :: tokens)

/-- Skipped text in front lengthens the first gap. -/
theorem Covers.skip {offset : Nat} {text rest : List Char} {tokens : List Token}
    (first : Skipped text rest) (covers : Covers (offset + text.length) rest tokens) :
    Covers offset (text ++ rest) tokens := by
  generalize place : offset + text.length = start at covers
  cases covers with
  | last skipped =>
    rw [← List.append_nil rest] at first
    exact .last (first.append skipped)
  | @token _ gap word after _ _ skipped nonempty begins stops shape later =>
    subst place
    have longer : offset + (text ++ gap).length = offset + text.length + gap.length := by
      rw [List.length_append, Nat.add_assoc]
    rw [← longer] at begins stops later
    rw [List.append_assoc] at first
    have covers := Covers.token (first.append skipped) nonempty begins stops shape later
    simpa using covers

/-- The tokens of a row that is not cut short cover its text. -/
theorem covers_of_cut {strict : Bool} {text : List Char} {elements : List Element}
    (cut : Cut strict text elements none) (start : Position) :
    Covers start.offset text (tokensFrom start elements) := by
  generalize ended : (none : Option Fault) = fault? at cut
  induction cut generalizing start with
  | done => exact .last .nil
  | failed _ => cases ended
  | @moved c rest after element elements _ found split _ ih =>
    have later := ih (start.past element.text) ended
    rw [split, tokensFrom]
    cases reads : element.reading? with
    | none =>
      simp only [Element.tokenAt?, reads, Option.map_none, Option.toList_none, List.nil_append]
      exact .skip (Element.skipped_of_first found reads split) later
    | some reading =>
      simp only [Element.tokenAt?, reads, Option.map_some, Option.toList_some, List.singleton_append]
      have covers : Covers start.offset ([] ++ element.text ++ after)
          (⟨reading.kind, reading.value, .of start element.text⟩ ::
            tokensFrom (start.past element.text) elements) :=
        .token .nil (Element.text_first_ne_nil found) rfl rfl
          (Element.shape_of_first found reads) later
      exact covers

/-! ## Offsets -/

theorem slice_of_append {before text after : List Char} {start stop : Nat}
    (first : start = before.length) (last : stop = before.length + text.length) :
    slice (before ++ text ++ after) start stop = text := by
  subst first last
  rw [slice, ← List.length_append, List.take_left, List.drop_left]

/-- The tokens from `offset` on and what lies between them, said by the offsets of the source. -/
structure Layout (source : List Char) (offset : Nat) (tokens : List Token) : Prop where
  /-- Every token has a non-empty span inside the source. -/
  bounds : ∀ token ∈ tokens, offset ≤ token.span.start.offset ∧
    token.span.start.offset < token.span.stop.offset ∧ token.span.stop.offset ≤ source.length
  /-- The spans are in order and disjoint. -/
  ordered : tokens.Pairwise fun token later => token.span.stop.offset ≤ later.span.start.offset
  /-- Outside the spans there is skipped text only. -/
  gaps : ∀ gap ∈ gapsFrom offset source.length tokens,
    Skipped (slice source gap.1 gap.2) (source.drop gap.2)
  /-- Every token is written like a token of its kind. -/
  shapes : ∀ token ∈ tokens, token.kind.Shape token.value.toList
    (slice source token.span.start.offset token.span.stop.offset)

/-- A text that is covered lays out the end of any source that it stands at the end of. -/
theorem Covers.layout {offset : Nat} {text : List Char} {tokens : List Token}
    (covers : Covers offset text tokens) (before : List Char) (place : offset = before.length) :
    Layout (before ++ text) offset tokens := by
  induction covers generalizing before with
  | @last offset gap skipped =>
    subst place
    refine ⟨nofun, .nil, ?_, nofun⟩
    intro stretch mem
    obtain rfl := List.mem_singleton.mp mem
    have whole : (before ++ gap).length = before.length + gap.length := List.length_append
    rw [← List.append_nil (before ++ gap), slice_of_append rfl (by simp)]
    simpa using skipped
  | @token offset gap word after token tokens skipped nonempty start stop shape _ ih =>
    subst place
    have split : before ++ (gap ++ word ++ after) = before ++ gap ++ word ++ after := by simp
    have length : (before ++ gap).length = before.length + gap.length := List.length_append
    have length' : (before ++ gap ++ word).length = before.length + gap.length + word.length := by
      rw [List.length_append, length]
    have positive := List.length_pos_iff.mpr nonempty
    obtain ⟨bounds, ordered, gaps, shapes⟩ := ih _ length'.symm
    rw [split]
    refine ⟨?_, ?_, ?_, ?_⟩
    -- The first token stands after the first gap; the later ones stand after it, by induction.
    · intro other mem
      rcases List.mem_cons.mp mem with rfl | mem
      · rw [List.length_append, length']
        omega
      · obtain ⟨lower, nonempty, upper⟩ := bounds other mem
        exact ⟨by omega, nonempty, upper⟩
    · refine List.pairwise_cons.mpr ⟨?_, ordered⟩
      intro other mem
      rw [stop]
      exact (bounds other mem).1
    · rw [gapsFrom, stop]
      refine List.forall_mem_cons.mpr ⟨?_, gaps⟩
      have gapSlice : slice (before ++ gap ++ (word ++ after)) before.length token.span.start.offset =
          gap := slice_of_append rfl start
      rw [List.append_assoc _ word, gapSlice, start, ← length, List.drop_left]
      exact skipped
    · refine List.forall_mem_cons.mpr ⟨?_, shapes⟩
      rw [slice_of_append (start.trans length.symm) (by rw [stop, length])]
      exact shape

/-- **The tokens of a source lay it out.** -/
theorem layout_of_tokenize {lexer : Lexer} {source file : String} {tokens : List Token}
    (ok : (lexer.tokenize source file).result = .ok tokens) :
    Layout source.toList 0 tokens := by
  obtain ⟨elements, cut, rfl⟩ := Lexer.exists_cut_of_ok ok
  exact (covers_of_cut cut (.start file)).layout [] rfl

/-! ## What a shape says about the value -/

/-- Without its separators a written number is the mark of its base and its value. -/
theorem Kind.spells_of_shape {kind : Kind} {value text : List Char}
    (shape : kind.Shape value text) : kind.Spells value text := by
  have unmarked {kind : Kind} {mark digits : List Char} (written : Number.Written kind mark digits)
      (none : kind.markers = []) : (mark ++ digits).filter (· ≠ '_') = digits.filter (· ≠ '_') := by
    cases written with
    | decimal _ => rfl
    | float _ _ _ => rfl
    | marked mem _ _ => rw [none] at mem; cases mem
  have marked {kind : Kind} {mark digits : List Char} (written : Number.Written kind mark digits)
      (some : kind ≠ .numericLiteral ∧ kind ≠ .floatLiteral) :
      ∃ marker ∈ kind.markers,
        (mark ++ digits).filter (· ≠ '_') = '0' :: marker :: digits.filter (· ≠ '_') := by
    cases written with
    | decimal _ => exact absurd rfl some.1
    | float _ _ _ => exact absurd rfl some.2
    | @marked _ marker _ mem _ _ =>
      have letter : marker ≠ '_' := by
        rintro rfl
        exact absurd (Number.isAlphanum_of_mem_markers mem) (by decide)
      exact ⟨marker, mem, by simp [letter]⟩
  cases kind with
  | numericLiteral | floatLiteral =>
    obtain ⟨mark, digits, written, rfl, rfl⟩ := shape
    exact unmarked written rfl
  | binaryLiteral | octalLiteral | hexaLiteral =>
    obtain ⟨mark, digits, written, rfl, rfl⟩ := shape
    exact marked written (by decide)
  | _ => exact shape

/-- **Lossless coverage.**  The tokens of a source have non-empty spans inside it, in order and
disjoint; outside the spans there are only blanks and whole comments; and the source under a token
determines its value as its kind says. -/
theorem tokens_cover_source (lexer : Lexer) (source file : String) (tokens : List Token)
    (ok : (lexer.tokenize source file).result = .ok tokens) :
    (∀ token ∈ tokens, token.span.start.offset < token.span.stop.offset ∧
      token.span.stop.offset ≤ source.length) ∧
    (tokens.Pairwise fun token later => token.span.stop.offset ≤ later.span.start.offset) ∧
    (∀ gap ∈ gapsFrom 0 source.length tokens,
      Skipped (slice source.toList gap.1 gap.2) (source.toList.drop gap.2)) ∧
    ∀ token ∈ tokens, token.kind.Spells token.value.toList
      (slice source.toList token.span.start.offset token.span.stop.offset) := by
  obtain ⟨bounds, ordered, gaps, shapes⟩ := layout_of_tokenize ok
  rw [String.length_toList] at bounds gaps
  refine ⟨?_, ordered, gaps, ?_⟩
  · intro token mem
    exact (bounds token mem).2
  · intro token mem
    exact Kind.spells_of_shape (shapes token mem)

/-- The comment `/*/ */` does not end at its third character, and `// c` ends with the source. -/
theorem tokens_cover_source_around_comments :
    ((Lexer.new true).tokenize "a/*/ */0b1_0// c" "s").result =
        .ok [⟨.identifierName, "a", ⟨⟨0, 1, "s"⟩, ⟨1, 1, "s"⟩⟩⟩,
          ⟨.binaryLiteral, "10", ⟨⟨7, 1, "s"⟩, ⟨12, 1, "s"⟩⟩⟩] ∧
      (∀ gap ∈ [(0, 0), (1, 7), (12, 16)],
        Skipped (slice "a/*/ */0b1_0// c".toList gap.1 gap.2)
          ("a/*/ */0b1_0// c".toList.drop gap.2)) := by
  have ok : ((Lexer.new true).tokenize "a/*/ */0b1_0// c" "s").result =
      .ok [⟨.identifierName, "a", ⟨⟨0, 1, "s"⟩, ⟨1, 1, "s"⟩⟩⟩,
        ⟨.binaryLiteral, "10", ⟨⟨7, 1, "s"⟩, ⟨12, 1, "s"⟩⟩⟩] := by cbv
  exact ⟨ok, (tokens_cover_source _ _ _ _ ok).2.2.1⟩

end Lexeme
