import Mathlib
import Lexeme.Proofs.Coverage

/-!
# What a number can still become

A number is never refused too late: what its scan has passed over is the beginning of some number,
so the character that no number goes on with is not among it.

## Main Definitions

* `Number.ReadsWhole` — a text that is read as a number to its end

## Design Notes

One zero is enough to complete whatever has been passed over. It is a digit of every form, so it
closes a point, a mark and a separator, and it is the decimal digit that a separator looks ahead for
(`exists_passes_of_text_body`). Only a zero that is alone takes no zero after it; that is a number as
it stands. So `exists_scan_of_text_scan` holds of every text, whether its number is refused or not.
-/

namespace Lexeme.Number

/-- A text that is read as a number to its end, when it stands alone. -/
def ReadsWhole (text : List Char) : Prop :=
  ∀ file line, ∃ token, (read (.ofString (String.ofList text) file) line).token = .ok token ∧
    (read (.ofString (String.ofList text) file) line).cursor.rest = []

/-- A zero is a digit of every form. -/
theorem accepts_zero (form : Form) : form.accepts '0' = true := by
  cases form <;> rfl

/-- What the scan of a body has passed over is passed over to its end with a zero after it. -/
theorem exists_passes_of_text_body (form : Form) (last : Option Char) (source : List Char) :
    ∃ form', Passes form last ((body form last source).text ++ ['0']) form' := by
  have zero (form : Form) (last : Option Char) : ∃ form', Passes form last ([] ++ ['0']) form' :=
    ⟨form, .digit (accepts_zero form) (.close (accepts_zero form))⟩
  induction source generalizing form last with
  | nil => exact zero form last
  | cons c rest ih =>
    rcases body_cons_cases form last c rest with ⟨form₁, advances⟩ | ⟨-, stopped⟩ | ⟨_, -, refused⟩
    · obtain ⟨form', passes⟩ := ih form₁ (some c)
      rw [body_of_advances advances]
      refine ⟨form', ?_⟩
      cases advances with
      | digit accepted => exact .digit accepted passes
      | separator before after =>
        -- The digit that was seen ahead has been passed over, or the zero stands in its place.
        refine .separator before ?_ passes
        obtain ⟨behind, split⟩ := text_body_isPrefix form (some '_') rest
        cases covers : (body form (some '_') rest).text with
        | nil => rfl
        | cons d text =>
          rw [covers, List.cons_append] at split
          rwa [← split] at after
      | point _ => exact .point passes
    · rw [stopped]
      exact zero form last
    · rw [refused]
      exact zero form last

/-- A body that is passed over to its end is a number, whatever mark comes before it. -/
theorem toScan_of_passes {form form' : Form} {last : Option Char} {text : List Char}
    (passes : Passes form last text form') (mark : List Char) :
    (body form last text).toScan mark =
      ⟨mark ++ text, 0, .ok ⟨form'.kind, value form' (mark ++ text)⟩⟩ := by
  have ended : Ends [] := trivial
  have whole := body_eq_of_passes passes ended
  rw [List.append_nil] at whole
  rw [whole, Body.toScan]

/-- A zero after a bare text keeps it bare, unless the text is a lone zero. -/
theorem Bare.append_zero {text : List Char} (bare : Bare text) (other : text ≠ ['0']) :
    Bare (text ++ ['0']) := by
  intro marker rest split
  cases text with
  | nil => cases split
  | cons c text =>
    obtain ⟨rfl, tail⟩ := List.cons.inj split
    cases text with
    | nil => exact absurd rfl other
    | cons d text =>
      obtain ⟨rfl, -⟩ := List.cons.inj tail
      exact bare d text rfl

/-- The front of a bare text is bare. -/
theorem Bare.of_isPrefix {text source : List Char} (bare : Bare source) (starts : text <+: source) :
    Bare text := by
  obtain ⟨behind, rfl⟩ := starts
  rintro marker rest rfl
  exact bare marker (rest ++ behind) rfl

/-- **What a scan has passed over can be completed** by one character at most to a number that is
read to its end. -/
theorem exists_scan_of_text_scan (source : List Char) :
    ∃ more reading, more.length ≤ 1 ∧
      scan ((scan source).text ++ more) = ⟨(scan source).text ++ more, 0, .ok reading⟩ := by
  by_cases bare : Bare source
  · have starts := text_scan_isPrefix source
    rw [scan_of_bare bare] at starts ⊢
    generalize passed : ((body .decimal none source).toScan []).text = text at starts ⊢
    by_cases zero : text = ['0']
    · subst zero
      exact ⟨[], _, Nat.zero_le 1, rfl⟩
    · obtain ⟨form, passes⟩ := exists_passes_of_text_body .decimal none source
      have bare' := (bare.of_isPrefix starts).append_zero zero
      subst passed
      exact ⟨['0'], _, Nat.le_refl 1, (scan_of_bare bare').trans (toScan_of_passes passes [])⟩
  · obtain ⟨marker, rest, rfl, refused⟩ := exists_marker_of_not_bare bare
    cases known : Form.ofMarker? marker with
    | none =>
      rw [scan_of_no_marker known refused]
      exact ⟨[], _, Nat.zero_le 1, rfl⟩
    | some form =>
      obtain ⟨form', passes⟩ := exists_passes_of_text_body form (some marker) rest
      have whole := (scan_of_marker known _).trans (toScan_of_passes passes ['0', marker])
      rw [scan_of_marker known]
      exact ⟨['0'], _, Nat.le_refl 1, whole⟩

/-- A text that is scanned to its end is read to its end, in any file and on any line. -/
theorem readsWhole_of_scan {text : List Char} {reading : Reading}
    (whole : scan text = ⟨text, 0, .ok reading⟩) : ReadsWhole text := by
  intro file line
  have left : (Cursor.ofString (String.ofList text) file).rest = text := String.toList_ofList
  rw [read, left, whole]
  refine ⟨_, rfl, ?_⟩
  rw [Scan.readAt, Cursor.rest_skip, left, List.drop_length]

/-- An error stands where the scan of the number stopped, on the line of its start. -/
theorem position_of_read {cursor : Cursor} {line : Nat} {error : Error}
    (refused : (read cursor line).token = .error error) :
    error.position = (cursor.skip (scan cursor.rest).text.length).here line := by
  cases outcome : (scan cursor.rest).outcome with
  | ok reading => simp [read, Scan.readAt, outcome] at refused
  | error fault =>
    rw [read, Scan.readAt, outcome] at refused
    cases refused
    rw [ahead_scan outcome]

/-- **Errors of numbers are not late.**  The error stands where the cursor is left, between the start
of the number and the end of the source, on the line of the start; and the text between the start
and the error is the beginning of a number: with one more character at most, it is read as a number
to its end. -/
theorem completable_of_read (cursor : Cursor) (line : Nat) (error : Error)
    (refused : (read cursor line).token = .error error) :
    cursor.offset ≤ error.position.offset ∧ error.position.offset ≤ cursor.source.length ∧
    (read cursor line).cursor.source = cursor.source ∧
    (read cursor line).cursor.offset = error.position.offset ∧
    (read cursor line).line = line ∧
    error.position.line = line ∧ error.position.file = cursor.file ∧
    ∃ more, more.length ≤ 1 ∧
      ReadsWhole (slice cursor.source cursor.offset error.position.offset ++ more) := by
  obtain ⟨after, split⟩ := text_scan_isPrefix cursor.rest
  obtain ⟨more, reading, short, whole⟩ := exists_scan_of_text_scan cursor.rest
  have place := position_of_read refused
  have offset : error.position.offset = cursor.offset + (scan cursor.rest).text.length := by
    rw [place]
    exact Cursor.offset_skip_of_append split.symm
  have passed : slice cursor.source cursor.offset error.position.offset = (scan cursor.rest).text := by
    have parts : cursor.source = cursor.passed.reverse ++ (scan cursor.rest).text ++ after := by
      rw [List.append_assoc, split]; rfl
    rw [parts]
    refine slice_of_append ?_ ?_ <;> simp [offset, cursor.offset_eq]
  have stops := Cursor.offset_skip_of_append split.symm
  rw [← offset] at stops
  refine ⟨?_, ?_, Cursor.source_skip _ _, stops, ?_, ?_, ?_, more, short, ?_⟩
  · rw [offset]
    exact Nat.le_add_right _ _
  · rw [← stops, ← Cursor.source_skip (scan cursor.rest).text.length cursor]
    exact Cursor.offset_le _
  · rw [read, Scan.readAt, lines_scan, Nat.add_zero]
  · rw [place]
    rfl
  · rw [place]
    exact Cursor.file_skip _ _
  · rw [passed]
    exact readsWhole_of_scan whole

/-- A separator has been passed over when the digit behind it is refused, so the number could have
gone on with another digit. -/
theorem completable_of_read_behind_separator :
    (read (Cursor.skip 2 (.ofString "x=0b1_2" "s")) 3).token =
        .error ⟨.malformedBinaryLiteral '2', ⟨6, 3, "s"⟩⟩ ∧
      ∃ more, more.length ≤ 1 ∧ ReadsWhole (['0', 'b', '1', '_'] ++ more) := by
  have refused : (read (Cursor.skip 2 (.ofString "x=0b1_2" "s")) 3).token =
      .error ⟨.malformedBinaryLiteral '2', ⟨6, 3, "s"⟩⟩ := rfl
  obtain ⟨-, -, -, -, -, -, -, viable⟩ := completable_of_read _ _ _ refused
  exact ⟨refused, viable⟩

end Lexeme.Number
