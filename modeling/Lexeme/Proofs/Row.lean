import Mathlib
import Lexeme.Lexer

/-!
# The row of elements of a source

A lexer reads a source as a row of elements. What it comes to depends on that row alone: the tokens
are the elements that have a kind, each where the texts before it end, and an error stands where the
last text ends.

## Main Definitions

* `Element.First` — what the first element of a text can be, one case for each rule
* `Element.FirstToken` — the same for an element with a kind and value
* `Cut` — the row of elements that a text is cut into, up to its end or to a refusal
* `tokensFrom` — the tokens of a row of elements that starts at a position
* `Lexer.reports` — what is told about a row of elements

## Design Notes

`Cut` is the run of a lexer without its cursor, line and log, so a property of a scan is proved by
induction on `Cut`, with `Element.First` for the step. `runFrom_of_cut` is the only place where the
run itself is opened; `exists_cut_of_ok` and `exists_cut_of_error` bring a result back to a row.
-/

namespace Lexeme

namespace Element

/-- What the first element of `c :: rest` can be, or why there is none: one case for each rule, with
the tests that lead to it. The tests that the characters themselves exclude are left out. -/
inductive First (strict : Bool) (c : Char) (rest : List Char) : Except Fault Element → Prop
  | blank (white : Text.isBlank c = true) : First strict c rest (.ok (.blank c))
  | word (notBlank : Text.isBlank c = false) (letter : Text.isAlphabetic c = true) :
      First strict c rest (.ok (.word c rest))
  | number (starts : startsNumber c rest = true) :
      First strict c rest (ofScan (Number.scan (c :: rest)))
  | quoted (starts : startsQuoted c = true) :
      First strict c rest (ofScan (Quoted.scan c (c :: rest)))
  | lineComment (slash : c = '/') (next : rest.head? = some '/') :
      First strict c rest (.ok (.lineComment (c :: Comment.line rest)))
  | blockComment (slash : c = '/') (next : rest.head? = some '*') :
      First strict c rest (block rest)
  | symbol {text : List Char} {kind : Kind}
      (noComment : ¬(c = '/' ∧ (rest.head? = some '/' ∨ rest.head? = some '*')))
      (read : Symbol.read? (c :: rest) = some (text, kind)) :
      First strict c rest (.ok (.verbatim kind text))
  | unknown (notBlank : Text.isBlank c = false) (notLetter : Text.isAlphabetic c = false)
      (notNumber : startsNumber c rest = false) (notQuoted : startsQuoted c = false)
      (noSymbol : Symbol.read? (c :: rest) = none) :
      First strict c rest
        (if strict then .error ⟨[], .unrecognisedToken (String.ofList [c])⟩ else .ok (.unknown c))

/-- The rules of `first`. -/
theorem first_spec (strict : Bool) (c : Char) (rest : List Char) :
    First strict c rest (first strict c rest) := by
  unfold first
  split
  · next white => exact .blank white
  next notBlank =>
  split
  · next letter => exact .word (Bool.eq_false_iff.mpr notBlank) letter
  next notLetter =>
  split
  · next starts => exact .number starts
  next notNumber =>
  split
  · next starts => exact .quoted starts
  next notQuoted =>
  split
  · next opening => exact .lineComment opening.1 opening.2
  next notLine =>
  split
  · next opening => exact .blockComment opening.1 opening.2
  next notBlock =>
  split
  · next read =>
    refine .symbol ?_ read
    rintro ⟨slash, next | next⟩
    · exact notLine ⟨slash, next⟩
    · exact notBlock ⟨slash, next⟩
  · next noSymbol =>
    exact .unknown (Bool.eq_false_iff.mpr notBlank) (Bool.eq_false_iff.mpr notLetter)
      (Bool.eq_false_iff.mpr notNumber) (Bool.eq_false_iff.mpr notQuoted) noSymbol

/-- The first element of `c :: rest` when it has a kind and value: the rules of `First` that read a
token, with what the proofs about tokens need of the tests. -/
inductive FirstToken (c : Char) (rest : List Char) : Element → Reading → Prop
  | word {text : List Char} (letter : Text.isAlphabetic c = true)
      (whole : text = c :: rest.takeWhile Text.isAlphanumeric) :
      FirstToken c rest (.verbatim (Keyword.kindOf (String.ofList text)) text)
        ⟨Keyword.kindOf (String.ofList text), String.ofList text⟩
  | number {reading : Reading} (starts : startsNumber c rest = true)
      (ok : (Number.scan (c :: rest)).outcome = .ok reading) :
      FirstToken c rest (.token reading (Number.scan (c :: rest)).text) reading
  | quoted {reading : Reading} (starts : startsQuoted c = true)
      (ok : (Quoted.scan c (c :: rest)).outcome = .ok reading) :
      FirstToken c rest (.token reading (Quoted.scan c (c :: rest)).text) reading
  | symbol {text : List Char} {kind : Kind} (mem : (text, kind) ∈ Symbol.table) :
      FirstToken c rest (.verbatim kind text) ⟨kind, String.ofList text⟩
  | unknown (notBlank : Text.isBlank c = false) :
      FirstToken c rest (.unknown c) ⟨.unknown, String.ofList [c]⟩

/-- An element with a kind and value is read by a rule for tokens. -/
theorem firstToken_of_first {strict : Bool} {c : Char} {rest : List Char} {element : Element}
    {reading : Reading} (found : first strict c rest = .ok element)
    (reads : element.reading? = some reading) : FirstToken c rest element reading := by
  have spec := first_spec strict c rest
  generalize first strict c rest = result at spec found
  cases spec with
  | blank _ => cases found; cases reads
  | word _ letter => cases found; cases reads; exact .word letter rfl
  | number starts =>
    obtain ⟨_, ok, rfl⟩ := (ofScan_eq_ok_iff _ _).mp found
    cases reads
    exact .number starts ok
  | quoted starts =>
    obtain ⟨_, ok, rfl⟩ := (ofScan_eq_ok_iff _ _).mp found
    cases reads
    exact .quoted starts ok
  | lineComment _ _ => cases found; cases reads
  | blockComment _ _ =>
    unfold block at found
    split at found <;> cases found
    cases reads
  | symbol _ read => cases found; cases reads; exact .symbol (Symbol.mem_table_of_read? read)
  | unknown notBlank _ _ _ _ =>
    split at found <;> cases found
    cases reads
    exact .unknown notBlank

/-! ## Where a fault stands -/

/-- The place of a fault is in the text that is refused. -/
theorem ahead_isPrefix_of_first {strict : Bool} {c : Char} {rest : List Char} {fault : Fault}
    (refused : first strict c rest = .error fault) : fault.ahead <+: c :: rest := by
  have spec := first_spec strict c rest
  generalize first strict c rest = result at spec refused
  cases spec with
  | blank _ => cases refused
  | word _ _ => cases refused
  | number _ =>
    rw [Number.ahead_scan ((ofScan_eq_error_iff _ _).mp refused)]
    exact Number.text_scan_isPrefix _
  | quoted _ =>
    rw [Quoted.ahead_scan ((ofScan_eq_error_iff _ _).mp refused)]
    exact List.nil_prefix
  | lineComment _ _ => cases refused
  | blockComment _ _ =>
    unfold block at refused
    split at refused <;> cases refused
    exact List.nil_prefix
  | symbol _ _ => cases refused
  | unknown _ _ _ _ _ =>
    split at refused <;> cases refused
    exact List.nil_prefix

/-- The token that an element is when it stands at `start`. -/
def tokenAt? (start : Position) (element : Element) : Option Token :=
  element.reading?.map fun reading => ⟨reading.kind, reading.value, .of start element.text⟩

/-- A token spans the text of the element that it is. -/
theorem span_of_tokenAt? {start : Position} {element : Element} {token : Token}
    (here : element.tokenAt? start = some token) : token.span = .of start element.text := by
  obtain ⟨reading, -, rfl⟩ := Option.map_eq_some_iff.mp here
  rfl

end Element

/-- The tokens of a row of elements that starts at `start`. -/
def tokensFrom (start : Position) : List Element → List Token
  | [] => []
  | element :: elements =>
    (element.tokenAt? start).toList ++ tokensFrom (start.past element.text) elements

/-- What a row of elements that starts at `start` comes to: its tokens, or the error of the fault
that ends it. -/
def resultFrom (start : Position) (elements : List Element) :
    Option Fault → Except Error (List Token)
  | none => .ok (tokensFrom start elements)
  | some fault => .error (fault.errorAt (start.past (elements.flatMap Element.text)))

theorem tokensFrom_append (start : Position) (elements later : List Element) :
    tokensFrom start (elements ++ later) =
      tokensFrom start elements ++
        tokensFrom (start.past (elements.flatMap Element.text)) later := by
  induction elements generalizing start with
  | nil => rfl
  | cons element elements ih =>
    rw [List.cons_append, tokensFrom, tokensFrom, ih, List.append_assoc, List.flatMap_cons,
      Position.past_append]

/-- The tokens of a row come before what the row after it comes to. -/
theorem resultFrom_append (start : Position) (elements later : List Element)
    (fault? : Option Fault) :
    resultFrom start (elements ++ later) fault? =
      (resultFrom (start.past (elements.flatMap Element.text)) later fault?).map
        (tokensFrom start elements ++ ·) := by
  cases fault? with
  | none => rw [resultFrom, tokensFrom_append]; rfl
  | some fault => rw [resultFrom, List.flatMap_append, Position.past_append]; rfl

/-- A token of a row is one of its elements: the elements before that one are the row that the tokens
before it come from, and their texts end where it starts. -/
theorem exists_split_of_tokensFrom {elements : List Element} {start : Position}
    {before after : List Token} {token : Token}
    (split : tokensFrom start elements = before ++ token :: after) :
    ∃ passed element later, elements = passed ++ element :: later ∧
      tokensFrom start passed = before ∧
      element.tokenAt? (start.past (passed.flatMap Element.text)) = some token := by
  induction elements generalizing start before with
  | nil => exact absurd split (by simp [tokensFrom])
  | cons element elements ih =>
    have further {between : List Token}
        (rest : tokensFrom (start.past element.text) elements = between ++ token :: after)
        (joined : (element.tokenAt? start).toList ++ between = before) :
        ∃ passed next later, element :: elements = passed ++ next :: later ∧
          tokensFrom start passed = before ∧
          next.tokenAt? (start.past (passed.flatMap Element.text)) = some token := by
      obtain ⟨passed, next, later, rfl, same, found⟩ := ih rest
      refine ⟨element :: passed, next, later, rfl, ?_, ?_⟩
      · rw [tokensFrom, same, joined]
      · rwa [List.flatMap_cons, Position.past_append]
    rw [tokensFrom] at split
    cases here : element.tokenAt? start with
    | none =>
      rw [here] at split further
      exact further split rfl
    | some first =>
      rw [here] at split further
      cases before with
      | nil =>
        obtain ⟨rfl, -⟩ := List.cons.inj split
        exact ⟨[], element, elements, rfl, rfl, here⟩
      | cons other before =>
        obtain ⟨rfl, rest⟩ := List.cons.inj split
        exact further rest rfl

/-! ## Cutting a text -/

/-- `Cut strict text elements fault?`: read from its start, `text` is the row `elements`, and after
it the text is used up or its next element is refused. -/
inductive Cut (strict : Bool) : List Char → List Element → Option Fault → Prop
  | done : Cut strict [] [] none
  | failed {c : Char} {rest : List Char} {fault : Fault}
      (refused : Element.first strict c rest = .error fault) :
      Cut strict (c :: rest) [] (some fault)
  | moved {c : Char} {rest after : List Char} {element : Element} {elements : List Element}
      {fault? : Option Fault} (found : Element.first strict c rest = .ok element)
      (split : c :: rest = element.text ++ after) (later : Cut strict after elements fault?) :
      Cut strict (c :: rest) (element :: elements) fault?

/-- Every text is cut, since each element covers at least one character. -/
theorem exists_cut (strict : Bool) (text : List Char) :
    ∃ elements fault?, Cut strict text elements fault? := by
  match text with
  | [] => exact ⟨[], none, .done⟩
  | c :: rest =>
    cases found : Element.first strict c rest with
    | error fault => exact ⟨[], some fault, .failed found⟩
    | ok element =>
      obtain ⟨after, split⟩ := Element.text_first_isPrefix found
      have shorter : after.length < (c :: rest).length := by
        have := List.length_pos_iff.mpr (Element.text_first_ne_nil found)
        rw [← split, List.length_append]
        omega
      obtain ⟨elements, fault?, later⟩ := exists_cut strict after
      exact ⟨element :: elements, fault?, .moved found split.symm later⟩
termination_by text.length
decreasing_by exact shorter

/-- A row covers the front of the text that is cut into it, and a fault that ends it stands in the
text after the row. -/
theorem Cut.exists_split {strict : Bool} {text : List Char} {elements : List Element}
    {fault? : Option Fault} (cut : Cut strict text elements fault?) :
    ∃ after, text = elements.flatMap Element.text ++ after ∧
      (fault? = none → after = []) ∧ ∀ fault ∈ fault?, fault.ahead <+: after := by
  induction cut with
  | done => exact ⟨[], rfl, fun _ => rfl, nofun⟩
  | @failed c rest fault refused =>
    refine ⟨c :: rest, rfl, nofun, ?_⟩
    rintro _ ⟨⟩
    exact Element.ahead_isPrefix_of_first refused
  | moved found split _ ih =>
    obtain ⟨after, rfl, last, ahead⟩ := ih
    exact ⟨after, by rw [split, List.flatMap_cons, List.append_assoc], last, ahead⟩

/-- A row that is not cut short covers the whole text. -/
theorem Cut.flatMap_text {strict : Bool} {text : List Char} {elements : List Element}
    (cut : Cut strict text elements none) : elements.flatMap Element.text = text := by
  obtain ⟨after, rfl, last, -⟩ := cut.exists_split
  rw [last rfl, List.append_nil]

/-- The elements of a row are first elements. -/
theorem Cut.exists_first_of_mem {strict : Bool} {text : List Char} {elements : List Element}
    {fault? : Option Fault} (cut : Cut strict text elements fault?) {element : Element}
    (mem : element ∈ elements) : ∃ c rest, Element.first strict c rest = .ok element := by
  induction cut with
  | done => cases mem
  | failed _ => cases mem
  | moved found _ _ ih =>
    rcases List.mem_cons.mp mem with rfl | later
    · exact ⟨_, _, found⟩
    · exact ih later

/-- A row that is cut short ends before an element that is refused. -/
theorem Cut.exists_first_of_some {strict : Bool} {text : List Char} {elements : List Element}
    {fault : Fault} (cut : Cut strict text elements (some fault)) :
    ∃ c rest, text = elements.flatMap Element.text ++ c :: rest ∧
      Element.first strict c rest = .error fault := by
  generalize short : some fault = fault? at cut
  induction cut with
  | done => cases short
  | failed refused =>
    cases short
    exact ⟨_, _, rfl, refused⟩
  | moved found split _ ih =>
    obtain ⟨c, rest, rfl, refused⟩ := ih short
    exact ⟨c, rest, by rw [split, List.flatMap_cons, List.append_assoc], refused⟩

namespace Lexer

/-! ## The run over a row -/

/-- What is told about a row of elements. -/
def reports (lexer : Lexer) : List Element → List Log.Record
  | [] => []
  | element :: elements => lexer.report element ++ (lexer.pass element).reports elements

theorem tokens_pass (lexer : Lexer) (element : Element) :
    (lexer.pass element).tokens = (element.tokenAt? lexer.here).toList ++ lexer.tokens := rfl

/-- Where a lexer stands, and the tokens it has found, after it has passed a row of elements. -/
theorem foldl_pass {elements : List Element} {after : List Char} (lexer : Lexer)
    (split : lexer.cursor.rest = elements.flatMap Element.text ++ after) :
    (elements.foldl pass lexer).here = lexer.here.past (elements.flatMap Element.text) ∧
      (elements.foldl pass lexer).tokens =
        (tokensFrom lexer.here elements).reverse ++ lexer.tokens := by
  induction elements generalizing lexer with
  | nil => exact ⟨rfl, rfl⟩
  | cons element elements ih =>
    rw [List.flatMap_cons, List.append_assoc] at split
    have left : (lexer.pass element).cursor.rest = elements.flatMap Element.text ++ after := by
      rw [rest_pass, split, List.drop_left]
    obtain ⟨place, found⟩ := ih (lexer.pass element) left
    rw [here_pass split] at place found
    refine ⟨?_, ?_⟩
    · rw [List.foldl_cons, place, List.flatMap_cons, Position.past_append]
    · rw [List.foldl_cons, found, tokens_pass, tokensFrom, List.reverse_append, List.append_assoc]
      cases element.tokenAt? lexer.here <;> rfl

/-- **A run passes the row of elements** that its text is cut into, and fails where the row is cut
short. -/
theorem runFrom_of_cut {strict : Bool} {text : List Char} {elements : List Element}
    {fault? : Option Fault} (cut : Cut strict text elements fault?) (lexer : Lexer)
    (same : lexer.strict = strict) (left : lexer.cursor.rest = text) (log : Array Log.Record) :
    lexer.runFrom log =
      ⟨elements.foldl pass lexer, log ++ lexer.reports elements,
        fault?.map (·.errorAt (elements.foldl pass lexer).here)⟩ := by
  induction cut generalizing lexer log with
  | done =>
    rw [runFrom_of_done (step_of_nil left)]
    simp [reports]
  | @failed c rest fault refused =>
    have failed : lexer.step = .failed (fault.errorAt lexer.here) := by
      rw [step_of_cons left, same, refused, comesTo]
    rw [runFrom_of_failed failed]
    simp [reports]
  | @moved c rest after element elements fault? found split _ ih =>
    have moved : lexer.step = .moved (lexer.report element) (lexer.pass element) := by
      rw [step_of_cons left, same, found, comesTo]
    have later : (lexer.pass element).cursor.rest = after := by
      rw [rest_pass, left, split, List.drop_left]
    -- What is told about this step comes before what is told about the rest of the row.
    have joined : log ++ lexer.report element ++ (lexer.pass element).reports elements =
        log ++ lexer.reports (element :: elements) := Array.ext' (by simp [reports])
    rw [runFrom_of_moved moved, ih (lexer.pass element) same later, joined,
      List.foldl_cons]

/-- **What a scan comes to** is read off the row of elements that its source is cut into. -/
theorem result_tokenize_of_cut {lexer : Lexer} {source : String} {elements : List Element}
    {fault? : Option Fault} (cut : Cut lexer.strict source.toList elements fault?)
    (file : String) :
    (lexer.tokenize source file).result = resultFrom (.start file) elements fault? := by
  obtain ⟨after, split, -⟩ := cut.exists_split
  have run := runFrom_of_cut cut (lexer.reset source file) rfl rfl #[]
  obtain ⟨place, found⟩ := foldl_pass (lexer.reset source file) split
  have start : (lexer.reset source file).here = .start file := rfl
  have noTokens : (lexer.reset source file).tokens = [] := rfl
  rw [start, noTokens, List.append_nil] at found
  rw [start] at place
  cases fault? with
  | none => simp [tokenize, Lexer.run, run, found, resultFrom]
  | some fault => simp [tokenize, Lexer.run, run, place, resultFrom]

/-- A scan that finds tokens has cut the whole source. -/
theorem exists_cut_of_ok {lexer : Lexer} {source file : String} {tokens : List Token}
    (ok : (lexer.tokenize source file).result = .ok tokens) :
    ∃ elements, Cut lexer.strict source.toList elements none ∧
      tokens = tokensFrom (.start file) elements := by
  obtain ⟨elements, fault?, cut⟩ := exists_cut lexer.strict source.toList
  rw [result_tokenize_of_cut cut] at ok
  cases fault? with
  | none => exact ⟨elements, cut, (Except.ok.inj ok).symm⟩
  | some fault => cases ok

/-- A scan that fails has cut the source up to the fault. -/
theorem exists_cut_of_error {lexer : Lexer} {source file : String} {error : Error}
    (failed : (lexer.tokenize source file).result = .error error) :
    ∃ elements fault, Cut lexer.strict source.toList elements (some fault) ∧
      error = fault.errorAt ((Position.start file).past (elements.flatMap Element.text)) := by
  obtain ⟨elements, fault?, cut⟩ := exists_cut lexer.strict source.toList
  rw [result_tokenize_of_cut cut] at failed
  cases fault? with
  | none => cases failed
  | some fault => exact ⟨elements, fault, cut, (Except.error.inj failed).symm⟩

end Lexer

end Lexeme
