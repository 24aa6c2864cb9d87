import Mathlib
import Lexeme.Proofs.Loops

/-!
# Steps and their loops

A step of the lexer reads its element in a loop, one character at a time. Here each step is shown to
be what its loop comes to: the value of the token, the cursor and the line are the ones that the
loop is left with.

## Main Definitions

* `Lexer.takeNumber`, `Lexer.takeQuoted`, `Lexer.takeBlock` — what a step makes of the result of a
  loop
* `Lexer.ByLoop` — a step, by the loop that its first character calls for

## Design Notes

The rules say what they read all at once (`Number.scan`, `Quoted.scan`, `Comment.blockLength?`), the
loops say it round by round, and `Cursor.loopsEnd` has compared the two at any cursor. What is left
to do here is to enter each loop where its element starts and to put its result in the place of what
the rule has read.
-/

namespace Lexeme

open Loop

/-- The end of a body keeps what stands before the digits. -/
theorem Number.markLength_of_body {form form' : Form} {last : Option Char} {source : List Char}
    (ok : (body form last source).outcome = .ok form') : form'.markLength = form.markLength := by
  have kept {form : Form} {last : Option Char} (ok : close form last = .ok form') :
      form'.markLength = form.markLength := by
    unfold close at ok
    split at ok
    · cases ok
    split at ok
    · cases ok
      rfl
    · cases ok
  induction source generalizing form last with
  | nil => exact kept ok
  | cons c rest ih =>
    unfold body at ok
    repeat' split at ok
    all_goals first
      | exact (ih ok :)
      | exact kept ok
      | simp at ok

/-- A letter that announces a form makes a mark of two characters. -/
theorem Number.markLength_of_ofMarker? {marker : Char} {form : Form}
    (known : Form.ofMarker? marker = some form) : form.markLength = 2 := by
  have mem := (ofMarker?_eq_some_iff marker form).mp known
  obtain ⟨same, found, -, length⟩ := exists_form_of_mem_markers mem
  rw [known] at found
  cases found
  exact length

namespace Lexer

variable {lexer : Lexer}

/-- What a step makes of the end of a number. -/
def takeNumber (lexer : Lexer) (exit : Number.Exit) : Step :=
  match exit.outcome with
  | .ok form =>
    lexer.found [] ⟨form.kind, String.ofList exit.digits, ⟨lexer.here, exit.cursor.here lexer.line⟩⟩
      exit.cursor lexer.line
  | .error cause => .failed ⟨cause, exit.cursor.here lexer.line⟩

/-- What a step makes of the end of a quoted literal: the closing delimiter is passed, and the
content is judged where the literal started. -/
def takeQuoted (lexer : Lexer) (delimiter : Char) (closed : Bool) (stage : Quoted.Stage) : Step :=
  if closed then
    match Quoted.judge delimiter stage.content with
    | .ok reading =>
      lexer.found [] ⟨reading.kind, reading.value,
        ⟨lexer.here, stage.cursor.advance.here stage.line⟩⟩ stage.cursor.advance stage.line
    | .error fault => .failed ⟨fault.cause, lexer.here⟩
  else .failed ⟨.unterminatedLiteral delimiter, lexer.here⟩

/-- What a step makes of the end of a block comment. -/
def takeBlock (lexer : Lexer) (stop? : Option Comment.Skipping) : Step :=
  match stop? with
  | some stop =>
    .moved [Log.blockCommentSkipped stop.cursor.offset]
      { lexer with cursor := stop.cursor, line := stop.line }
  | none => .failed ⟨.unterminatedComment, lexer.here⟩

/-- What a step comes to, by the loop that reads its element. A loop goes round no more often than
there are characters left. -/
inductive ByLoop (lexer : Lexer) : Step → Prop
  /-- Nothing is left. -/
  | done (used : lexer.cursor.rest = []) : ByLoop lexer .done
  /-- A blank is passed, and the line goes up at a line end. -/
  | blank {c : Char} {rest : List Char} (left : lexer.cursor.rest = c :: rest)
      (white : Text.isBlank c = true) :
      ByLoop lexer (.moved []
        { lexer with
          cursor := lexer.cursor.advance
          line := if c = '\n' then lexer.line + 1 else lexer.line })
  /-- A word is taken, starting with its first letter. -/
  | word {c : Char} {rest : List Char} {stop : Cursor} {word : List Char}
      (left : lexer.cursor.rest = c :: rest) (letter : Text.isAlphabetic c = true)
      (loop : EndsWithin Element.wordRound lexer.cursor.rest.length ⟨lexer.cursor, []⟩
        ⟨stop, word⟩) :
      ByLoop lexer (lexer.found []
        ⟨Keyword.kindOf (String.ofList word), String.ofList word,
          ⟨lexer.here, stop.here lexer.line⟩⟩ stop lexer.line)
  /-- A decimal number is passed from its first character on. -/
  | decimal {c : Char} {rest : List Char} {exit : Number.Exit}
      (left : lexer.cursor.rest = c :: rest) (starts : Element.startsNumber c rest = true)
      (loop : EndsWithin Number.round lexer.cursor.rest.length ⟨lexer.cursor, .decimal, none, []⟩
        exit) : ByLoop lexer (lexer.takeNumber exit)
  /-- A number of another base is passed from behind its mark on. -/
  | marked {marker : Char} {rest : List Char} {form : Number.Form} {exit : Number.Exit}
      (left : lexer.cursor.rest = '0' :: marker :: rest)
      (known : Number.Form.ofMarker? marker = some form)
      (loop : EndsWithin Number.round lexer.cursor.rest.length
        ⟨lexer.cursor.advance.advance, form, some marker, []⟩ exit) :
      ByLoop lexer (lexer.takeNumber exit)
  /-- A leading zero before something else is refused without a loop. -/
  | noMarker {marker : Char} {rest : List Char} (left : lexer.cursor.rest = '0' :: marker :: rest)
      (unknown : Number.Form.ofMarker? marker = none) :
      ByLoop lexer (.failed ⟨.invalidBaseMarker marker, lexer.cursor.advance.here lexer.line⟩)
  /-- A quoted literal is taken up to the delimiter that it starts with. -/
  | quoted {d : Char} {rest : List Char} {closed : Bool} {stage : Quoted.Stage}
      (left : lexer.cursor.rest = d :: rest) (starts : Element.startsQuoted d = true)
      (loop : EndsWithin (Quoted.round d) lexer.cursor.rest.length ⟨lexer.cursor, lexer.line, []⟩
        (closed, stage)) : ByLoop lexer (lexer.takeQuoted d closed stage)
  /-- A line comment is skipped, on the line at hand. -/
  | lineComment {rest : List Char} {stop : Cursor} (left : lexer.cursor.rest = '/' :: '/' :: rest)
      (loop : EndsWithin Comment.lineRound lexer.cursor.rest.length lexer.cursor stop) :
      ByLoop lexer (.moved [Log.lineCommentSkipped stop.offset] { lexer with cursor := stop })
  /-- A block comment is skipped, from its opening star on. -/
  | blockComment {rest : List Char} {stop? : Option Comment.Skipping}
      (left : lexer.cursor.rest = '/' :: '*' :: rest)
      (loop : EndsWithin Comment.blockRound lexer.cursor.rest.length
        ⟨lexer.cursor.advance, lexer.line⟩ stop?) : ByLoop lexer (lexer.takeBlock stop?)
  /-- Points are taken behind the first one. -/
  | points {rest : List Char} {stop : Cursor} {points : List Char}
      (left : lexer.cursor.rest = '.' :: rest)
      (loop : EndsWithin Symbol.pointRound lexer.cursor.rest.length ⟨lexer.cursor.advance, ['.']⟩
        ⟨stop, points⟩) :
      ByLoop lexer (lexer.found []
        ⟨.token, String.ofList points, ⟨lexer.here, stop.here lexer.line⟩⟩ stop lexer.line)
  /-- Any other symbol is passed without a loop. -/
  | symbol {text : List Char} {kind : Kind}
      (read : Symbol.read? lexer.cursor.rest = some (text, kind))
      (other : lexer.cursor.rest.head? ≠ some '.') :
      ByLoop lexer (lexer.emit [] kind text)
  /-- A character that starts nothing is refused by a strict lexer. -/
  | refused {c : Char} {rest : List Char} (left : lexer.cursor.rest = c :: rest)
      (strict : lexer.strict = true) :
      ByLoop lexer (.failed ⟨.unrecognisedToken (String.ofList [c]), lexer.here⟩)
  /-- Any other lexer passes it. -/
  | unknown {c : Char} {rest : List Char} (left : lexer.cursor.rest = c :: rest)
      (lenient : lexer.strict = false) :
      ByLoop lexer (lexer.emit [Log.unknownFound c lexer.here] .unknown [c])

/-- A word is read by its loop. -/
theorem byLoop_word {c : Char} {rest : List Char} (left : lexer.cursor.rest = c :: rest)
    (letter : Text.isAlphabetic c = true) :
    lexer.ByLoop (lexer.emit []
      (Keyword.kindOf (String.ofList (c :: rest.takeWhile Text.isAlphanumeric)))
      (c :: rest.takeWhile Text.isAlphanumeric)) := by
  obtain ⟨s, loop, taken⟩ := (lexer.cursor.loopsEnd lexer.line).word
  have text : (Element.word c rest).text = c :: rest.takeWhile Text.isAlphanumeric := rfl
  rw [taken c rest left letter, text] at loop
  exact .word left letter loop

/-- A number that is scanned behind a mark is what the loop of its body comes to. -/
theorem take_toScan {mark : List Char} {form : Number.Form} {last : Option Char}
    {source : List Char} (length : form.markLength = mark.length) :
    lexer.take (((Number.body form last source).toScan mark).readAt lexer.cursor lexer.line) =
      lexer.takeNumber
        ⟨(lexer.cursor.skip mark.length).skip (Number.body form last source).text.length,
          (Number.body form last source).text.filter (· ≠ '_'),
          (Number.body form last source).outcome⟩ := by
  cases outcome : (Number.body form last source).outcome with
  | error cause =>
    have refused : ((Number.body form last source).toScan mark).outcome =
        .error ⟨mark ++ (Number.body form last source).text, cause⟩ := by
      rw [Number.Body.toScan, outcome]
    rw [take_readAt_of_error refused, takeNumber, Cursor.skip_skip, ← List.length_append]
  | ok form' =>
    have same := (Number.markLength_of_body outcome).trans length
    have read : ((Number.body form last source).toScan mark).outcome =
        .ok ⟨form'.kind,
          String.ofList ((Number.body form last source).text.filter (· ≠ '_'))⟩ := by
      simp [Number.Body.toScan, outcome, Number.value, same]
    rw [take_readAt_of_ok read, takeNumber, Cursor.skip_skip, ← List.length_append]
    rfl

/-- A number without a mark is read by its loop. -/
theorem byLoop_bare {c : Char} {rest : List Char} (left : lexer.cursor.rest = c :: rest)
    (starts : Element.startsNumber c rest = true)
    (bare : Number.scan (c :: rest) = (Number.body .decimal none (c :: rest)).toScan []) :
    lexer.ByLoop (lexer.take (Number.read lexer.cursor lexer.line)) := by
  have loop := (lexer.cursor.loopsEnd lexer.line).number .decimal none []
  rw [Number.read, left, bare, ← left, take_toScan rfl]
  exact .decimal left starts loop

/-- A number is read by its loop. -/
theorem byLoop_number {c : Char} {rest : List Char} (left : lexer.cursor.rest = c :: rest)
    (starts : Element.startsNumber c rest = true) :
    lexer.ByLoop (lexer.take (Number.read lexer.cursor lexer.line)) := by
  cases rest with
  | nil => exact byLoop_bare left starts rfl
  | cons marker rest =>
    by_cases zero : c = '0'
    · subst zero
      cases known : Number.Form.ofMarker? marker with
      | some form =>
        have mark : form.markLength = ['0', marker].length :=
          Number.markLength_of_ofMarker? known
        have beyond : lexer.cursor.advance.advance.rest = rest := by simp [left]
        obtain ⟨n, bound, ends⟩ :=
          (lexer.cursor.advance.advance.loopsEnd lexer.line).number form (some marker) []
        rw [beyond] at bound ends
        rw [Number.read, left, Number.scan, if_pos rfl]
        simp only [known]
        rw [take_toScan mark]
        exact .marked left known ⟨n, by simp [left]; omega, ends⟩
      | none =>
        by_cases refused : (marker.isAlphanum || marker = '_') = true
        · have scanned : Number.scan ('0' :: marker :: rest) =
              ⟨['0'], 0, .error ⟨['0'], .invalidBaseMarker marker⟩⟩ := by
            simp only [Number.scan, known, if_pos, refused]
          rw [Number.read, left, scanned]
          exact .noMarker left known
        · refine byLoop_bare left starts ?_
          rw [Number.scan, if_pos rfl]
          simp only [known]
          rw [if_neg refused]
    · exact byLoop_bare left starts (by rw [Number.scan, if_neg zero])

/-- A quoted literal is read by its loop. -/
theorem byLoop_quoted {d : Char} {rest : List Char} (left : lexer.cursor.rest = d :: rest)
    (starts : Element.startsQuoted d = true) :
    lexer.ByLoop (lexer.take (Quoted.read lexer.cursor lexer.line d)) := by
  obtain ⟨closed, stage, loop, cursor, line, outcome⟩ :=
    (lexer.cursor.loopsEnd lexer.line).quoted d
  have same : lexer.take (Quoted.read lexer.cursor lexer.line d) =
      lexer.takeQuoted d closed stage := by
    cases closed with
    | false =>
      rw [Quoted.read, take_readAt_of_error outcome]
      rfl
    | true =>
      rw [if_pos rfl] at outcome
      cases judged : Quoted.judge d stage.content with
      | ok reading =>
        rw [judged] at outcome
        simp only [Quoted.read, Scan.readAt] at cursor line
        rw [Quoted.read, take_readAt_of_ok outcome, cursor, line]
        simp [takeQuoted, judged]
      | error fault =>
        rw [judged] at outcome
        rw [Quoted.read, take_readAt_of_error outcome, Quoted.ahead_scan outcome]
        simp [takeQuoted, judged, here]
  rw [same]
  exact .quoted left starts loop

/-- A block comment is skipped by its loop. -/
theorem byLoop_blockComment {tail : List Char} (left : lexer.cursor.rest = '/' :: '*' :: tail) :
    lexer.ByLoop (lexer.skipBlock ('*' :: tail)) := by
  have beyond : lexer.cursor.advance.rest.tail = tail := by simp [left]
  have shorter : tail.length ≤ lexer.cursor.rest.length := by simp [left]; omega
  rw [skipBlock, List.tail_cons]
  cases closed : Comment.blockLength? tail with
  | none =>
    have ends := Comment.ends_blockRound_of_none lexer.cursor.advance beyond closed lexer.line
    exact .blockComment left ⟨_, shorter, ends⟩
  | some n =>
    have ends := Comment.ends_blockRound lexer.cursor.advance beyond closed lexer.line
    have bound := (Nat.le_of_lt (Comment.lt_length_of_blockLength? closed)).trans shorter
    exact .blockComment left ⟨n, bound, ends⟩

/-- A symbol is read by the loop for points if it starts with one. -/
theorem byLoop_symbol {text : List Char} {kind : Kind}
    (read : Symbol.read? lexer.cursor.rest = some (text, kind)) :
    lexer.ByLoop (lexer.emit [] kind text) := by
  by_cases point : lexer.cursor.rest.head? = some '.'
  · obtain ⟨rest, left⟩ := List.head?_eq_some_iff.mp point
    obtain ⟨taken, loop, found⟩ := (lexer.cursor.loopsEnd lexer.line).points
    have same := (found rest left).symm.trans read
    cases same
    exact .points left loop
  · exact .symbol read point

/-- **Every step is what its loop comes to.** -/
theorem byLoop_step (lexer : Lexer) : lexer.ByLoop lexer.step := by
  cases left : lexer.cursor.rest with
  | nil =>
    rw [step_of_nil left]
    exact .done left
  | cons c rest =>
  rw [step, left]
  dsimp only
  split
  · next white => exact .blank left white
  split
  · next letter => exact byLoop_word left letter
  split
  · next starts => exact byLoop_number left starts
  split
  · next starts => exact byLoop_quoted left starts
  split
  · next slashes =>
    obtain ⟨rfl, next⟩ := slashes
    obtain ⟨tail, rfl⟩ := List.head?_eq_some_iff.mp next
    obtain ⟨stop, loop, skipped⟩ := (lexer.cursor.loopsEnd lexer.line).lineComment
    rw [skipped _ _ left] at loop
    exact .lineComment left loop
  split
  · next opening =>
    obtain ⟨rfl, next⟩ := opening
    obtain ⟨tail, rfl⟩ := List.head?_eq_some_iff.mp next
    exact byLoop_blockComment left
  cases read : Symbol.read? (c :: rest) with
  | some symbol =>
    rw [← left] at read
    exact byLoop_symbol read
  | none =>
    dsimp only
    split
    · next strict => exact .refused left strict
    · next lenient => exact .unknown left (Bool.eq_false_iff.mpr lenient)

end Lexer

end Lexeme
