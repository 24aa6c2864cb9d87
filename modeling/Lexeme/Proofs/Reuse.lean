import Mathlib
import Lexeme.Proofs.Row

/-!
# One lexer for many files

A lexer can scan one source after another. What a scan comes to depends on the source, the name of
the file and whether the lexer is strict, and on nothing that was scanned before.

## Main Definitions

* `Lexer.Used` — the lexers that calls of `reset` and `tokenize` lead to
* `positions` — the positions that the result of a scan shows
* `Position.inFile`, `Span.inFile`, `Token.inFile`, `Error.inFile` — the same thing in another file

## Design Notes

`Lexer.reset` sets all that a scan reads but `Lexer.strict`, which no call changes. So what is left
behind by a scan that breaks off inside an element need not be known: `Lexer.Used` leaves cursor and
line open there, and a lexer that has been used is known by its strictness alone.
-/

namespace Lexeme

/-! ## Calls -/

/-- The lexers that calls on a new lexer lead to, in any order and with any sources. -/
inductive Lexer.Used (strict : Bool) : Lexer → Prop
  /-- A lexer that has scanned nothing yet. -/
  | new : Used strict (.new strict)
  /-- A source has been bound and not been scanned. -/
  | reset {lexer : Lexer} (before : Used strict lexer) (source file : String) :
      Used strict (lexer.reset source file)
  /-- A source has been scanned. -/
  | scanned {lexer : Lexer} (before : Used strict lexer) (source file : String) :
      Used strict (lexer.tokenize source file).lexer
  /-- A scan has failed. It has gone on into the element that is refused, and how far it has come
  there, on which line, is left open. -/
  | failed {lexer : Lexer} (before : Used strict lexer) {source file : String} {error : Error}
      (failed : (lexer.tokenize source file).result = .error error) (cursor : Cursor) (line : Nat) :
      Used strict { (lexer.tokenize source file).lexer with cursor := cursor, line := line }

namespace Lexer

/-- Passing elements does not change whether a lexer is strict. -/
theorem strict_foldl_pass (lexer : Lexer) (elements : List Element) :
    (elements.foldl pass lexer).strict = lexer.strict := by
  induction elements generalizing lexer with
  | nil => rfl
  | cons element elements ih => rw [List.foldl_cons, ih, strict_pass]

/-- A scan leaves the lexer where its run has left it, without the tokens. -/
theorem lexer_tokenize (lexer : Lexer) (source file : String) :
    (lexer.tokenize source file).lexer =
      { (lexer.reset source file).run.lexer with tokens := [] } := by
  unfold tokenize
  dsimp only
  split <;> rfl

/-- Nor does a scan. -/
theorem strict_tokenize (lexer : Lexer) (source file : String) :
    (lexer.tokenize source file).lexer.strict = lexer.strict := by
  obtain ⟨elements, fault?, cut⟩ := exists_cut lexer.strict source.toList
  rw [lexer_tokenize, Lexer.run, runFrom_of_cut cut (lexer.reset source file) rfl rfl #[]]
  exact strict_foldl_pass (lexer.reset source file) elements

/-- No call changes whether a lexer is strict. -/
theorem Used.strict_eq {strict : Bool} {lexer : Lexer} (used : Used strict lexer) :
    lexer.strict = strict := by
  induction used with
  | new => rfl
  | reset _ _ _ same => exact same
  | scanned _ source file same => rw [strict_tokenize, same]
  | @failed lexer _ source file _ _ _ _ same => exact (strict_tokenize lexer source file).trans same

/-- A scan starts over: it reads nothing of the lexer but its strictness. -/
theorem tokenize_eq_of_strict_eq {lexer other : Lexer} (same : lexer.strict = other.strict)
    (source file : String) : lexer.tokenize source file = other.tokenize source file := by
  have reset : lexer.reset source file = other.reset source file := by
    rw [Lexer.reset, Lexer.reset, same]
  unfold tokenize
  rw [reset]

end Lexer

/-! ## File names -/

/-- The positions that the result of a scan shows: both ends of every token, or the place of the
error. -/
def positions : Except Error (List Token) → List Position
  | .ok tokens => tokens.flatMap fun token => [token.span.start, token.span.stop]
  | .error error => [error.position]

/-- The same place in another file. -/
def Position.inFile (file : String) (p : Position) : Position := { p with file := file }

/-- The same stretch in another file. -/
def Span.inFile (file : String) (span : Span) : Span :=
  ⟨span.start.inFile file, span.stop.inFile file⟩

/-- The same token in another file. -/
def Token.inFile (file : String) (token : Token) : Token :=
  { token with span := token.span.inFile file }

/-- The same error in another file. -/
def Error.inFile (file : String) (error : Error) : Error :=
  { error with position := error.position.inFile file }

theorem Position.past_inFile (p : Position) (file : String) (text : List Char) :
    (p.inFile file).past text = (p.past text).inFile file := rfl

theorem tokensFrom_inFile (start : Position) (file : String) (elements : List Element) :
    tokensFrom (start.inFile file) elements =
      (tokensFrom start elements).map (Token.inFile file) := by
  induction elements generalizing start with
  | nil => rfl
  | cons element elements ih =>
    rw [tokensFrom, tokensFrom, Position.past_inFile, ih, List.map_append]
    congr 1
    unfold Element.tokenAt?
    cases element.reading? <;> rfl

/-- What a row comes to in another file is the same, in that file. -/
theorem resultFrom_inFile (start : Position) (file : String) (elements : List Element)
    (fault? : Option Fault) :
    resultFrom (start.inFile file) elements fault? =
      ((resultFrom start elements fault?).map (List.map (Token.inFile file))).mapError
        (Error.inFile file) := by
  cases fault? with
  | none => rw [resultFrom, tokensFrom_inFile]; rfl
  | some fault => rfl

/-- The tokens of a row are in the file that the row starts in. -/
theorem file_of_mem_tokensFrom {elements : List Element} {start : Position} {token : Token}
    (mem : token ∈ tokensFrom start elements) :
    token.span.start.file = start.file ∧ token.span.stop.file = start.file := by
  obtain ⟨earlier, later, split⟩ := List.append_of_mem mem
  obtain ⟨passed, element, _, -, -, here⟩ := exists_split_of_tokensFrom split
  rw [Element.span_of_tokenAt? here]
  exact ⟨rfl, rfl⟩

/-- So is all that a row comes to. -/
theorem file_of_mem_positions {elements : List Element} {fault? : Option Fault}
    {start p : Position} (mem : p ∈ positions (resultFrom start elements fault?)) :
    p.file = start.file := by
  cases fault? with
  | none =>
    obtain ⟨token, found, mem⟩ := List.mem_flatMap.mp mem
    obtain ⟨first, last⟩ := file_of_mem_tokensFrom found
    rcases List.mem_pair.mp mem with rfl | rfl
    · exact first
    · exact last
  | some fault =>
    obtain rfl := List.mem_singleton.mp mem
    rfl

/-! ## Scans after other scans -/

/-- **One lexer, many files.**  After any calls a scan comes to the same and tells the same as with
a new lexer, and leaves no tokens behind. Every position in its result is in the file that was
named, and under another name the result is the same but for the name. -/
theorem tokenize_of_used (strict : Bool) (lexer : Lexer) (used : Lexer.Used strict lexer)
    (source file other : String) :
    (lexer.tokenize source file).result = ((Lexer.new strict).tokenize source file).result ∧
    (lexer.tokenize source file).log = ((Lexer.new strict).tokenize source file).log ∧
    (lexer.tokenize source file).lexer.tokens = [] ∧
    (∀ p ∈ positions (lexer.tokenize source file).result, p.file = file) ∧
    (lexer.tokenize source other).result =
      ((lexer.tokenize source file).result.map (List.map (Token.inFile other))).mapError
        (Error.inFile other) := by
  have same := @Lexer.tokenize_eq_of_strict_eq lexer (.new strict) used.strict_eq source file
  obtain ⟨elements, fault?, cut⟩ := exists_cut lexer.strict source.toList
  refine ⟨congrArg Lexer.Outcome.result same, congrArg Lexer.Outcome.log same,
    congrArg Lexer.tokens (Lexer.lexer_tokenize lexer source file), ?_, ?_⟩
  · rw [Lexer.result_tokenize_of_cut cut]
    intro p mem
    exact file_of_mem_positions mem
  · rw [Lexer.result_tokenize_of_cut cut, Lexer.result_tokenize_of_cut cut]
    exact resultFrom_inFile (.start file) other elements fault?

/-- A scan that fails in a string on the second line, with its cursor left at the end, and then one
of another file. -/
theorem tokenize_of_used_after_open_string :
    let broken : Lexer :=
      { ((Lexer.new true).tokenize "x\n\"y" "a").lexer with
        cursor := (Cursor.ofString "x\n\"y" "a").skip 4, line := 2 }
    Lexer.Used true broken ∧
      (broken.tokenize "1" "b").result =
        .ok [⟨.numericLiteral, "1", ⟨⟨0, 1, "b"⟩, ⟨1, 1, "b"⟩⟩⟩] ∧
      (broken.tokenize "1" "c").result =
        .ok [⟨.numericLiteral, "1", ⟨⟨0, 1, "c"⟩, ⟨1, 1, "c"⟩⟩⟩] := by
  have cut : Cut true ['x', '\n', '"', 'y']
      [.verbatim .identifierName ['x'], .blank '\n'] (some ⟨[], .unterminatedLiteral '"'⟩) :=
    .moved rfl rfl (.moved rfl rfl (.failed rfl))
  have failed : ((Lexer.new true).tokenize "x\n\"y" "a").result =
      .error ⟨.unterminatedLiteral '"', ⟨2, 2, "a"⟩⟩ :=
    @Lexer.result_tokenize_of_cut (.new true) "x\n\"y" _ _ cut "a"
  have used := Lexer.Used.failed .new failed ((Cursor.ofString "x\n\"y" "a").skip 4) 2
  have fresh : ((Lexer.new true).tokenize "1" "b").result =
      .ok [⟨.numericLiteral, "1", ⟨⟨0, 1, "b"⟩, ⟨1, 1, "b"⟩⟩⟩] := by cbv
  obtain ⟨result, -, -, -, renamed⟩ := tokenize_of_used true _ used "1" "b" "c"
  rw [result, fresh] at renamed
  exact ⟨used, result.trans fresh, renamed⟩

end Lexeme
