import Lexeme.Element
import Lexeme.Log

/-!
# The lexer

A lexer cuts one source after another into tokens. It reads element by element, counting
characters and lines, until the source is used up or an element is refused.

## Main Definitions

* `Lexer` — whether to be strict, and how far the scan at hand has come
* `Lexer.step` — reads one element
* `Lexer.run` — reads all of them
* `Lexer.tokenize` — scans a source from its beginning, with the log of the scan
* `Lexer.comesTo` — what a step comes to, said by the element that is read
* `tokenize` — scans a source with a new lenient lexer

## Design Notes

A scan is all or nothing: the tokens found before an error are dropped. Every scan starts with
`Lexer.reset`, so nothing but `Lexer.strict` is carried from one source to the next.

`Lexer.step` moves the cursor and the line on their own. The line is raised in three places only: at
a line end between elements, by the line ends in a block comment, and by those that a quoted literal
has counted; words, numbers, symbols and line comments leave it as it is. `Lexer.step_of_cons` says
that this is the line of the cursor all the same: a step is `Lexer.comesTo` of the first element at
the cursor. What is proved of steps is proved of that; only `Lexer.byLoop_step`, which goes back to
single characters, opens `Lexer.step` once more.

`Lexer.runFrom` ends because a step passes at least one character (`length_rest_of_step`), which is
`Element.text_first_ne_nil` brought to the lexer.
-/

namespace Lexeme

/-- A lexer in the course of a scan. -/
structure Lexer where
  /-- Whether a character that starts no token is an error. -/
  strict : Bool
  /-- How far the scan has come. -/
  cursor : Cursor
  /-- The line the cursor is on. -/
  line : Nat
  /-- The tokens found so far, the latest first. -/
  tokens : List Token

/-- The name of a source that is given none. -/
def defaultFile : String := "shell"

namespace Lexer

/-- A lexer that has scanned nothing yet. -/
def new (strict : Bool) : Lexer := ⟨strict, .ofString "" defaultFile, 1, []⟩

/-- Starts over on another source, forgetting the scan before it. -/
def reset (lexer : Lexer) (source file : String) : Lexer :=
  { lexer with cursor := .ofString source file, line := 1, tokens := [] }

/-- Where the scan has come to. -/
def here (lexer : Lexer) : Position := lexer.cursor.here lexer.line

/-- The line the cursor is on, on a counter of 32 bits. -/
def counter (lexer : Lexer) : UInt32 := lineCounter lexer.line

/-- What reading the next element comes to. -/
inductive Step
  /-- The source is used up. -/
  | done
  /-- The next element is refused. -/
  | failed (error : Error)
  /-- An element has been passed. -/
  | moved (log : List Log.Record) (next : Lexer)

/-- Keeps a token and goes on behind it, having told `log` and about the token. -/
def found (lexer : Lexer) (log : List Log.Record) (token : Token) (cursor : Cursor) (line : Nat) :
    Step :=
  .moved (log ++ [Log.tokenFound token])
    { lexer with cursor := cursor, line := line, tokens := token :: lexer.tokens }

/-- Makes a token of the next characters, which are `text`, on the line at hand. -/
def emit (lexer : Lexer) (log : List Log.Record) (kind : Kind) (text : List Char) : Step :=
  let cursor := lexer.cursor.skip text.length
  lexer.found log ⟨kind, String.ofList text, ⟨lexer.here, cursor.here lexer.line⟩⟩ cursor lexer.line

/-- Takes what reading a literal at the cursor has come to. -/
def take (lexer : Lexer) (result : Scan.Result) : Step :=
  match result.token with
  | .ok token => lexer.found [] token result.cursor result.line
  | .error error => .failed error

/-- Skips a comment up to, not including, the end of the line; `rest` follows its first slash. -/
def skipLine (lexer : Lexer) (rest : List Char) : Step :=
  let cursor := lexer.cursor.skip ((Comment.line rest).length + 1)
  .moved [Log.lineCommentSkipped cursor.offset] { lexer with cursor := cursor }

/-- Skips a comment up to the first closing mark behind its opening, counting the line ends between
the two; `rest` follows its first slash. -/
def skipBlock (lexer : Lexer) (rest : List Char) : Step :=
  match Comment.blockLength? rest.tail with
  | some n =>
    let cursor := lexer.cursor.skip (n + 4)
    let line := lexer.line + (rest.tail.take n).count '\n'
    .moved [Log.blockCommentSkipped cursor.offset] { lexer with cursor := cursor, line := line }
  | none => .failed ⟨.unterminatedComment, lexer.here⟩

/-- Reads the next element. -/
def step (lexer : Lexer) : Step :=
  match lexer.cursor.rest with
  | [] => .done
  | c :: rest =>
    if Text.isBlank c then
      let line := if c = '\n' then lexer.line + 1 else lexer.line
      .moved [] { lexer with cursor := lexer.cursor.advance, line := line }
    else if Text.isAlphabetic c then
      let text := c :: rest.takeWhile Text.isAlphanumeric
      lexer.emit [] (Keyword.kindOf (String.ofList text)) text
    else if Element.startsNumber c rest then lexer.take (Number.read lexer.cursor lexer.line)
    else if Element.startsQuoted c then lexer.take (Quoted.read lexer.cursor lexer.line c)
    else if c = '/' ∧ rest.head? = some '/' then lexer.skipLine rest
    else if c = '/' ∧ rest.head? = some '*' then lexer.skipBlock rest
    else match Symbol.read? (c :: rest) with
      | some (text, kind) => lexer.emit [] kind text
      | none =>
        if lexer.strict then .failed ⟨.unrecognisedToken (String.ofList [c]), lexer.here⟩
        else lexer.emit [Log.unknownFound c lexer.here] .unknown [c]

/-! ## A step and the element it reads -/

/-- The token that an element is, when the element is the next one. -/
def token? (lexer : Lexer) (element : Element) : Option Token :=
  element.reading?.map fun reading =>
    ⟨reading.kind, reading.value, .of lexer.here element.text⟩

/-- What is told about an element, when the element is the next one. -/
def report (lexer : Lexer) (element : Element) : List Log.Record :=
  let stop := lexer.here.past element.text
  let found := (lexer.token? element).toList.map Log.tokenFound
  match element with
  | .blank _ => []
  | .lineComment _ => [Log.lineCommentSkipped stop.offset]
  | .blockComment _ => [Log.blockCommentSkipped stop.offset]
  | .token _ _ => found
  | .unknown c => Log.unknownFound c lexer.here :: found

/-- Passes over an element, keeping its token. -/
def pass (lexer : Lexer) (element : Element) : Lexer :=
  { lexer with
    cursor := lexer.cursor.skip element.text.length
    line := lexer.line + element.text.count '\n'
    tokens := (lexer.token? element).toList ++ lexer.tokens }

/-- What a step comes to when the next element is found or refused: the element is passed, or the
fault is an error at its place. -/
def comesTo (lexer : Lexer) : Except Fault Element → Step
  | .ok element => .moved (lexer.report element) (lexer.pass element)
  | .error fault => .failed (fault.errorAt lexer.here)

/-- Making a token of the text of an element without line ends is passing the element. -/
theorem emit_eq_comesTo {lexer : Lexer} (element : Element) {kind : Kind} {log : List Log.Record}
    (front : element.text <+: lexer.cursor.rest) (inside : '\n' ∉ element.text)
    (reads : element.reading? = some ⟨kind, String.ofList element.text⟩)
    (told : lexer.report element = log ++ (lexer.token? element).toList.map Log.tokenFound) :
    lexer.emit log kind element.text = lexer.comesTo (.ok element) := by
  obtain ⟨rest, split⟩ := front
  simp [emit, found, comesTo, told, pass, token?, reads, Span.of, here,
    Cursor.here_skip_of_notMem split.symm inside, List.count_eq_zero.mpr inside]

/-- A literal that is read is found up to where its scan has come, on the line that the scan has
counted. -/
theorem take_readAt_of_ok {lexer : Lexer} {scan : Scan} {reading : Reading}
    (ok : scan.outcome = .ok reading) :
    lexer.take (scan.readAt lexer.cursor lexer.line) =
      lexer.found [] ⟨reading.kind, reading.value,
        ⟨lexer.here, (lexer.cursor.skip scan.text.length).here (lexer.line + scan.lines)⟩⟩
        (lexer.cursor.skip scan.text.length) (lexer.line + scan.lines) := by
  simp [take, Scan.readAt, ok, here]

/-- A literal that is refused is refused at the place of its fault, on the line at hand. -/
theorem take_readAt_of_error {lexer : Lexer} {scan : Scan} {fault : Fault}
    (failed : scan.outcome = .error fault) :
    lexer.take (scan.readAt lexer.cursor lexer.line) =
      .failed ⟨fault.cause, (lexer.cursor.skip fault.ahead.length).here lexer.line⟩ := by
  simp [take, Scan.readAt, failed]

/-- A literal that is scanned accurately ends on the line that it has counted, and is refused on the
line of its fault. -/
theorem take_eq_comesTo {lexer : Lexer} {scan : Scan} (accurate : scan.Accurate lexer.cursor.rest) :
    lexer.take (scan.readAt lexer.cursor lexer.line) = lexer.comesTo (Element.ofScan scan) := by
  obtain ⟨rest, split⟩ := accurate.text_isPrefix
  cases outcome : scan.outcome with
  | ok reading =>
    rw [take_readAt_of_ok outcome, (Element.ofScan_eq_ok_iff _ _).mpr ⟨reading, outcome, rfl⟩]
    simp [found, comesTo, report, pass, token?, Element.reading?, Element.text, Span.of, here,
      accurate.lines_eq, Cursor.here_skip split.symm]
  | error fault =>
    obtain ⟨⟨after, ahead⟩, inside⟩ := accurate.ahead_of_error fault outcome
    rw [take_readAt_of_error outcome, (Element.ofScan_eq_error_iff _ _).mpr outcome, comesTo,
      Fault.errorAt, here, Cursor.here_skip_of_notMem ahead.symm inside]

/-- Skipping an element that is no token, and telling where it ends, is passing it. -/
theorem moved_eq_comesTo {lexer : Lexer} (element : Element) {rest : List Char}
    (split : lexer.cursor.rest = element.text ++ rest) (silent : element.reading? = none)
    (record : Nat → Log.Record)
    (told : lexer.report element = [record (lexer.here.past element.text).offset]) :
    Step.moved [record (lexer.cursor.skip element.text.length).offset]
        { lexer with
          cursor := lexer.cursor.skip element.text.length
          line := lexer.line + element.text.count '\n' } =
      lexer.comesTo (.ok element) := by
  rw [comesTo, told, pass, token?, silent, Cursor.offset_skip_of_append split]
  rfl

/-- A line comment ends on the line at hand. -/
theorem skipLine_eq_comesTo {lexer : Lexer} {rest : List Char}
    (left : lexer.cursor.rest = '/' :: rest) :
    lexer.skipLine rest = lexer.comesTo (.ok (.lineComment ('/' :: Comment.line rest))) := by
  have split : lexer.cursor.rest = ('/' :: Comment.line rest) ++ rest.dropWhile (· ≠ '\n') := by
    rw [left, Comment.line, List.cons_append, List.takeWhile_append_dropWhile]
  have inside : '\n' ∉ '/' :: Comment.line rest := by simp [Comment.newline_notMem_line]
  have skipped := moved_eq_comesTo (.lineComment _) split rfl Log.lineCommentSkipped rfl
  rwa [Element.text, List.count_eq_zero.mpr inside] at skipped

/-- The line ends of a block comment are those between its marks. -/
theorem skipBlock_eq_comesTo {lexer : Lexer} {tail : List Char}
    (left : lexer.cursor.rest = '/' :: '*' :: tail) :
    lexer.skipBlock ('*' :: tail) = lexer.comesTo (Element.block ('*' :: tail)) := by
  cases closed : Comment.blockLength? tail with
  | none => simp [skipBlock, Element.block, closed, comesTo, Fault.errorAt]
  | some n =>
    have inside := Nat.le_of_lt (Comment.lt_length_of_blockLength? closed)
    have length : ('/' :: '*' :: (tail.take n ++ ['*', '/'])).length = n + 4 := by simp [inside]
    have lines : ('/' :: '*' :: (tail.take n ++ ['*', '/'])).count '\n' =
        (tail.take n).count '\n' := by simp
    have split : lexer.cursor.rest =
        ('/' :: '*' :: (tail.take n ++ ['*', '/'])) ++ tail.drop (n + 2) := by
      rw [left, ← Comment.take_of_blockLength? closed, List.cons_append, List.cons_append,
        List.take_append_drop]
    have skipped := moved_eq_comesTo (.blockComment _) split rfl Log.blockCommentSkipped rfl
    rw [Element.text, length, lines] at skipped
    rw [Element.block_of_blockLength? closed, ← skipped, skipBlock, List.tail_cons, closed]

/-- At the end of the source a step does nothing. -/
theorem step_of_nil {lexer : Lexer} (left : lexer.cursor.rest = []) : lexer.step = .done := by
  rw [step, left]

/-- **A step reads the first element at the cursor**, and the line that it has counted is the line
behind that element. -/
theorem step_of_cons {lexer : Lexer} {c : Char} {rest : List Char}
    (left : lexer.cursor.rest = c :: rest) :
    lexer.step = lexer.comesTo (Element.first lexer.strict c rest) := by
  have newline : Text.isBlank '\n' = true := by decide
  rw [step, left, Element.first]
  dsimp only
  -- Both ask the same questions of the same characters.
  split
  · next blank =>
    by_cases same : c = '\n'
    · subst same
      rfl
    · simp [comesTo, report, pass, token?, Element.reading?, Element.text, same]
  next notBlank =>
  have notNewline : '\n' ≠ c := fun same => notBlank (same ▸ newline)
  split
  · refine emit_eq_comesTo (Element.word c rest) ?_ ?_ rfl rfl
    · rw [left]
      exact List.cons_prefix_cons.mpr ⟨rfl, List.takeWhile_prefix _⟩
    · intro mem
      have later := (List.mem_cons.mp mem).resolve_left notNewline
      exact absurd (List.all_eq_true.mp List.all_takeWhile _ later) (by decide)
  split
  · have accurate := Number.accurate_scan lexer.cursor.rest
    rw [Number.read, take_eq_comesTo accurate, left]
  split
  · have accurate := Quoted.accurate_scan rest notNewline.symm
    rw [← left] at accurate
    rw [Quoted.read, take_eq_comesTo accurate, left]
  split
  · next slashes =>
    obtain ⟨rfl, -⟩ := slashes
    exact skipLine_eq_comesTo left
  split
  · next opening =>
    obtain ⟨rfl, star⟩ := opening
    obtain ⟨tail, rfl⟩ := List.head?_eq_some_iff.mp star
    exact skipBlock_eq_comesTo left
  cases read : Symbol.read? (c :: rest) with
  | some symbol =>
    have front := Symbol.isPrefix_of_read? read
    rw [← left] at front
    exact emit_eq_comesTo (.verbatim symbol.2 symbol.1) front
      (Symbol.newline_notMem_of_mem_table (Symbol.mem_table_of_read? read)) rfl rfl
  | none =>
    dsimp only
    split
    · rfl
    · exact emit_eq_comesTo (.unknown c) (left ▸ List.prefix_append [c] rest)
        (fun mem => notNewline (List.mem_singleton.mp mem)) rfl rfl

/-- What reading to the end comes to. -/
structure Run where
  /-- The lexer after the last element that was passed. -/
  lexer : Lexer
  /-- What was told on the way. -/
  log : Array Log.Record
  /-- Why the element after it was refused, unless the source was used up. -/
  failure? : Option Error

/-- A step that passes an element says which one. -/
theorem exists_of_step {lexer next : Lexer} {log : List Log.Record}
    (moved : lexer.step = .moved log next) :
    ∃ c rest element, lexer.cursor.rest = c :: rest ∧
      Element.first lexer.strict c rest = .ok element ∧
      log = lexer.report element ∧ next = lexer.pass element := by
  cases left : lexer.cursor.rest with
  | nil =>
    rw [step_of_nil left] at moved
    cases moved
  | cons c rest =>
    rw [step_of_cons left] at moved
    cases read : Element.first lexer.strict c rest with
    | error fault =>
      rw [read] at moved
      cases moved
    | ok element =>
      rw [read] at moved
      cases moved
      exact ⟨c, rest, element, rfl, read, rfl, rfl⟩

@[simp] theorem rest_pass (lexer : Lexer) (element : Element) :
    (lexer.pass element).cursor.rest = lexer.cursor.rest.drop element.text.length :=
  Cursor.rest_skip _ _

/-- A step that passes an element leaves fewer characters. -/
theorem length_rest_of_step {lexer next : Lexer} {log : List Log.Record}
    (moved : lexer.step = .moved log next) :
    next.cursor.rest.length < lexer.cursor.rest.length := by
  obtain ⟨c, rest, element, left, found, -, rfl⟩ := exists_of_step moved
  have positive := List.length_pos_iff.mpr (Element.text_first_ne_nil found)
  rw [rest_pass, left, List.length_drop, List.length_cons]
  omega

/-- Reads elements until the source is used up or one is refused, adding to `log`. -/
def runFrom (log : Array Log.Record) (lexer : Lexer) : Run :=
  match _moved : lexer.step with
  | .done => ⟨lexer, log, none⟩
  | .failed error => ⟨lexer, log, some error⟩
  | .moved records next => runFrom (log ++ records) next
termination_by lexer.cursor.rest.length
decreasing_by exact length_rest_of_step _moved

/-- Reads elements until the source is used up or one is refused. -/
def run (lexer : Lexer) : Run := lexer.runFrom #[]

/-- What scanning a source comes to. -/
structure Outcome where
  /-- The tokens of the source, or why it was refused. -/
  result : Except Error (List Token)
  /-- What was told on the way. -/
  log : List Log.Record
  /-- The lexer afterwards. -/
  lexer : Lexer

/-- Scans a source from its beginning. -/
def tokenize (lexer : Lexer) (source file : String) : Outcome :=
  let run := (lexer.reset source file).run
  let tokens := run.lexer.tokens.reverse
  let lexer := { run.lexer with tokens := [] }
  let log (last : Log.Record) := Log.started file :: run.log.toList ++ [last]
  match run.failure? with
  | none => ⟨.ok tokens, log (Log.finished file tokens.length), lexer⟩
  | some error => ⟨.error error, log (Log.failed file error), lexer⟩

/-! ## What passing an element does to the lexer -/

@[simp] theorem strict_pass (lexer : Lexer) (element : Element) :
    (lexer.pass element).strict = lexer.strict := rfl

@[simp] theorem file_pass (lexer : Lexer) (element : Element) :
    (lexer.pass element).cursor.file = lexer.cursor.file :=
  Cursor.file_skip _ _

@[simp] theorem source_pass (lexer : Lexer) (element : Element) :
    (lexer.pass element).cursor.source = lexer.cursor.source :=
  Cursor.source_skip _ _

/-- Passing an element that stands at the cursor reaches the position past its text. -/
theorem here_pass {lexer : Lexer} {element : Element} {rest : List Char}
    (left : lexer.cursor.rest = element.text ++ rest) :
    (lexer.pass element).here = lexer.here.past element.text :=
  Cursor.here_skip left lexer.line

/-! ## One equation for each outcome of a step -/

theorem runFrom_of_done {lexer : Lexer} (done : lexer.step = .done) (log : Array Log.Record) :
    lexer.runFrom log = ⟨lexer, log, none⟩ := by
  unfold runFrom
  split <;> simp_all

theorem runFrom_of_failed {lexer : Lexer} {error : Error} (failed : lexer.step = .failed error)
    (log : Array Log.Record) : lexer.runFrom log = ⟨lexer, log, some error⟩ := by
  unfold runFrom
  split <;> simp_all

theorem runFrom_of_moved {lexer next : Lexer} {records : List Log.Record}
    (moved : lexer.step = .moved records next) (log : Array Log.Record) :
    lexer.runFrom log = next.runFrom (log ++ records) := by
  rw [runFrom]
  split <;> simp_all

end Lexer

/-- Scans a source with a new lenient lexer. -/
def tokenize (source : String) (file? : Option String) : Except Error (List Token) :=
  ((Lexer.new false).tokenize source (file?.getD defaultFile)).result

end Lexeme
