import Mathlib
import Lexeme.Proofs.Spelling

/-!
# Strict and lenient scans

A strict scan and a lenient scan of one source run alike up to the first character that starts no
element. There the strict one ends, and the lenient one warns and goes on.

## Main Definitions

* `Element.isUnknown`, `Token.isUnknown` — the characters that start no element, and their tokens
* `Log.ended` — the record that closes the log of a scan
* `Lexer.pushed` — the tokens that a scan has found when it ends, also if it fails

## Design Notes

`Element.first_true` says of one element what `Cut.strict_of_known` and `Cut.strict_of_unknown` say
of a row. Everything else is read off the row of the lenient scan, cut at its first unknown
character.
-/

namespace Lexeme

/-! ## Unknown characters -/

/-- Whether an element is a character that starts no other element. -/
def Element.isUnknown : Element → Bool
  | unknown _ => true
  | _ => false

/-- Whether a token is such a character. -/
def Token.isUnknown (token : Token) : Bool := token.kind = .unknown

namespace Element

/-- What a strict reader makes of an element that a lenient one has read. -/
def refuseUnknown : Element → Except Fault Element
  | unknown c => .error ⟨[], .unrecognisedToken (String.ofList [c])⟩
  | element => .ok element

/-- A strict reader is a lenient one that refuses unknown characters. -/
theorem first_true (c : Char) (rest : List Char) :
    first true c rest = (first false c rest).bind refuseUnknown := by
  have ofScan_bind (scan : Scan) : (ofScan scan).bind refuseUnknown = ofScan scan := by
    unfold ofScan
    cases scan.outcome <;> rfl
  unfold first
  split
  · rfl
  split
  · rfl
  split
  · exact (ofScan_bind _).symm
  split
  · exact (ofScan_bind _).symm
  split
  · rfl
  split
  · unfold block
    split <;> rfl
  split <;> rfl

theorem refuseUnknown_of_known {element : Element} (known : element.isUnknown = false) :
    refuseUnknown element = .ok element := by
  cases element with
  | unknown _ => cases known
  | _ => rfl

/-- Only unknown characters have tokens of the unknown kind. -/
theorem kind_ne_unknown_of_first {strict : Bool} {c : Char} {rest text : List Char}
    {reading : Reading} (found : first strict c rest = .ok (token reading text)) :
    reading.kind ≠ .unknown := by
  cases firstToken_of_first found rfl with
  | word _ _ =>
    rcases Keyword.kindOf_cases (String.ofList text) with kind | kind | kind <;> rw [kind] <;> nofun
  | number _ ok =>
    obtain ⟨kind, mark, digits, after, split, written, ends⟩ := Number.exists_written_of_scan ok
    rw [split, Number.scan_of_written written ends] at ok
    cases ok
    cases written with
    | decimal _ => nofun
    | float _ _ _ => nofun
    | marked mem _ _ =>
      rintro rfl
      cases mem
  | quoted _ ok =>
    obtain ⟨-, -, kind, -⟩ := Quoted.exists_content_of_scan ok
    rw [kind, Quoted.kindOf]
    split
    · nofun
    split <;> nofun
  | symbol mem =>
    have kinds : Symbol.table.all (·.2 ≠ .unknown) = true := by decide
    simpa using List.all_eq_true.mp kinds _ mem

end Element

/-! ## The row of a strict scan -/

/-- The tokens of the elements that are known are known. -/
theorem Cut.isUnknown_of_mem_tokensFrom {strict : Bool} {text : List Char}
    {elements : List Element} {fault? : Option Fault} (cut : Cut strict text elements fault?)
    {known : List Element} (sub : known ⊆ elements)
    (all : ∀ element ∈ known, element.isUnknown = false) (start : Position) :
    ∀ token ∈ tokensFrom start known, token.isUnknown = false := by
  induction known generalizing start with
  | nil => nofun
  | cons element known ih =>
    obtain ⟨here, later⟩ := List.forall_mem_cons.mp all
    obtain ⟨mem, sub⟩ := List.cons_subset.mp sub
    intro token found
    rcases List.mem_append.mp found with found | found
    · obtain ⟨reading, reads, rfl⟩ := Option.map_eq_some_iff.mp (Option.mem_toList.mp found)
      obtain ⟨c, rest, found⟩ := cut.exists_first_of_mem mem
      cases element with
      | token _ _ =>
        cases reads
        exact decide_eq_false (Element.kind_ne_unknown_of_first found)
      | unknown _ => cases here
      | _ => cases reads
    · exact ih sub later _ token found

/-- Where no character is unknown, a strict scan passes the same row. -/
theorem Cut.strict_of_known {text : List Char} {elements : List Element} {fault? : Option Fault}
    (cut : Cut false text elements fault?)
    (known : ∀ element ∈ elements, element.isUnknown = false) :
    Cut true text elements fault? := by
  induction cut with
  | done => exact .done
  | failed refused => exact .failed (by rw [Element.first_true, refused]; rfl)
  | moved found split _ ih =>
    obtain ⟨here, later⟩ := List.forall_mem_cons.mp known
    refine .moved ?_ split (ih later)
    rw [Element.first_true, found]
    exact Element.refuseUnknown_of_known here

/-- The row of a strict scan is cut short at the first unknown character. -/
theorem Cut.strict_of_unknown {text : List Char} {known later : List Element} {c : Char}
    {fault? : Option Fault} (cut : Cut false text (known ++ .unknown c :: later) fault?)
    (all : ∀ element ∈ known, element.isUnknown = false) :
    Cut true text known (some ⟨[], .unrecognisedToken (String.ofList [c])⟩) := by
  induction known generalizing text with
  | nil =>
    cases cut with
    | moved found _ _ => exact .failed (by rw [Element.first_true, found]; rfl)
  | cons element known ih =>
    obtain ⟨here, all⟩ := List.forall_mem_cons.mp all
    cases cut with
    | moved found split rest =>
      refine .moved ?_ split (ih rest all)
      rw [Element.first_true, found]
      exact Element.refuseUnknown_of_known here

/-- A row has no unknown characters, or a first one. -/
theorem known_or_exists_unknown (elements : List Element) :
    (∀ element ∈ elements, element.isUnknown = false) ∨
      ∃ known c later, elements = known ++ .unknown c :: later ∧
        ∀ element ∈ known, element.isUnknown = false := by
  cases first : elements.find? Element.isUnknown with
  | none => exact .inl fun element mem => by simpa using List.find?_eq_none.mp first element mem
  | some element =>
    obtain ⟨unknown, known, later, split, all⟩ := List.find?_eq_some_iff_append.mp first
    cases element with
    | unknown c =>
      exact .inr ⟨known, c, later, split, fun element mem => by simpa using all element mem⟩
    | _ => cases unknown

/-! ## The log -/

/-- The record that closes the log of a scan. -/
def Log.ended (file : String) : Except Error (List Token) → Log.Record
  | .ok tokens => Log.finished file tokens.length
  | .error error => Log.failed file error

namespace Lexer

/-- The tokens that a scan has found when it ends, also if it fails. -/
def pushed (lexer : Lexer) (source file : String) : List Token :=
  (lexer.reset source file).run.lexer.tokens.reverse

theorem pushed_of_cut {lexer : Lexer} {source : String} {elements : List Element}
    {fault? : Option Fault} (cut : Cut lexer.strict source.toList elements fault?) (file : String) :
    lexer.pushed source file = tokensFrom (.start file) elements := by
  obtain ⟨after, split, -⟩ := cut.exists_split
  obtain ⟨-, found⟩ := foldl_pass (lexer.reset source file) split
  have noTokens : (lexer.reset source file).tokens = [] := rfl
  rw [pushed, Lexer.run, runFrom_of_cut cut (lexer.reset source file) rfl rfl #[], found, noTokens,
    List.append_nil, List.reverse_reverse]
  rfl

/-- **The log of a scan** is what is told about the row of its source, between two records that say
how it began and how it ended. -/
theorem log_tokenize_of_cut {lexer : Lexer} {source : String} {elements : List Element}
    {fault? : Option Fault} (cut : Cut lexer.strict source.toList elements fault?) (file : String) :
    (lexer.tokenize source file).log =
      Log.started file :: (lexer.reset source file).reports elements ++
        [Log.ended file (lexer.tokenize source file).result] := by
  have run := runFrom_of_cut cut (lexer.reset source file) rfl rfl #[]
  cases fault? with
  | none => simp [tokenize, Lexer.run, run, Log.ended]
  | some fault => simp [tokenize, Lexer.run, run, Log.ended]

/-- A warning is given about unknown characters only. -/
theorem exists_warn_reports_iff (lexer : Lexer) (elements : List Element) :
    (∃ record ∈ lexer.reports elements, record.level = .warn) ↔
      ∃ element ∈ elements, element.isUnknown = true := by
  have one (lexer : Lexer) (element : Element) :
      (∃ record ∈ lexer.report element, record.level = .warn) ↔ element.isUnknown = true := by
    cases element <;> simp [report, Element.isUnknown, Log.tokenFound, Log.unknownFound,
      Log.lineCommentSkipped, Log.blockCommentSkipped]
  induction elements generalizing lexer with
  | nil => simp [reports]
  | cons element elements ih => simp [reports, or_and_right, exists_or, one, ih]

theorem exists_warn_log_iff {lexer : Lexer} {source : String} {elements : List Element}
    {fault? : Option Fault} (cut : Cut lexer.strict source.toList elements fault?) (file : String) :
    (∃ record ∈ (lexer.tokenize source file).log, record.level = .warn) ↔
      ∃ element ∈ elements, element.isUnknown = true := by
  have ended : (Log.ended file (lexer.tokenize source file).result).level ≠ .warn := by
    cases (lexer.tokenize source file).result <;> nofun
  rw [log_tokenize_of_cut cut, ← exists_warn_reports_iff (lexer.reset source file)]
  simp [or_and_right, exists_or, ended, Log.started]

end Lexer

/-! ## The two scans -/

/-- The first unknown token of a row is its first unknown character. -/
theorem Cut.find?_isUnknown {strict : Bool} {text : List Char} {known later : List Element}
    {c : Char} {fault? : Option Fault} (cut : Cut strict text (known ++ .unknown c :: later) fault?)
    (all : ∀ element ∈ known, element.isUnknown = false) (start : Position) :
    (tokensFrom start (known ++ .unknown c :: later)).find? Token.isUnknown =
      some ⟨.unknown, String.ofList [c], .of (start.past (known.flatMap Element.text)) [c]⟩ := by
  have none : (tokensFrom start known).find? Token.isUnknown = none := by
    refine List.find?_eq_none.mpr fun token mem => Bool.eq_false_iff.mp ?_
    exact cut.isUnknown_of_mem_tokensFrom (List.subset_append_left known _) all start token mem
  rw [tokensFrom_append, List.find?_append, none]
  rfl

section Scans

variable {lenient strict : Lexer} (isLenient : lenient.strict = false)
  (isStrict : strict.strict = true) {source : String} (file : String) {fault? : Option Fault}
include isLenient isStrict

/-- Where no character is unknown the two scans come to the same. -/
theorem result_tokenize_strict_of_known {elements : List Element}
    (cut : Cut lenient.strict source.toList elements fault?)
    (known : ∀ element ∈ elements, element.isUnknown = false) :
    (strict.tokenize source file).result = (lenient.tokenize source file).result := by
  have result := Lexer.result_tokenize_of_cut cut file
  rw [isLenient] at cut
  have again : Cut strict.strict source.toList elements fault? := by
    rw [isStrict]
    exact cut.strict_of_known known
  exact (Lexer.result_tokenize_of_cut again file).trans result.symm

/-- A strict scan ends at the first unknown character, a lenient one behind it. -/
theorem exists_unknown_of_tokenize {known later : List Element} {c : Char}
    (cut : Cut lenient.strict source.toList (known ++ .unknown c :: later) fault?)
    (all : ∀ element ∈ known, element.isUnknown = false) :
    ∃ token, (lenient.pushed source file).find? Token.isUnknown = some token ∧
      (strict.tokenize source file).result =
        .error ⟨.unrecognisedToken token.value, token.span.start⟩ ∧
      (∀ tokens, (lenient.tokenize source file).result = .ok tokens →
        tokens.find? Token.isUnknown = some token) ∧
      ∀ error, (lenient.tokenize source file).result = .error error →
        token.span.start.offset < error.position.offset := by
  have result := Lexer.result_tokenize_of_cut cut file
  have pushed := Lexer.pushed_of_cut cut file
  have first := cut.find?_isUnknown all (.start file)
  rw [isLenient] at cut
  have again : Cut strict.strict source.toList known
      (some ⟨[], .unrecognisedToken (String.ofList [c])⟩) := by
    rw [isStrict]
    exact cut.strict_of_unknown all
  rw [pushed, result]
  refine ⟨_, first, Lexer.result_tokenize_of_cut again file, ?_, ?_⟩
  · intro tokens ok
    cases fault? with
    | none => cases ok; exact first
    | some fault => cases ok
  · intro error failed
    cases fault? with
    | none => cases failed
    | some fault =>
      cases failed
      simp [Element.text]
      omega

end Scans

/-- **Strict and lenient scans.**  Where the lenient scan gives no warning the two scans come to the
same. Where it gives one, the strict scan is refused at the first unknown token that the lenient
scan has found, with its value; that is the first unknown token of its result, or stands before its
error. So the strict scan succeeds exactly if the lenient one does without unknown tokens, and they
find the same tokens then. -/
theorem tokenize_strict (lenient strict : Lexer) (isLenient : lenient.strict = false)
    (isStrict : strict.strict = true) (source file : String) :
    ((∀ record ∈ (lenient.tokenize source file).log, record.level ≠ .warn) →
      (strict.tokenize source file).result = (lenient.tokenize source file).result) ∧
    ((∃ record ∈ (lenient.tokenize source file).log, record.level = .warn) →
      ∃ token, (lenient.pushed source file).find? Token.isUnknown = some token ∧
        (strict.tokenize source file).result =
          .error ⟨.unrecognisedToken token.value, token.span.start⟩ ∧
        (∀ tokens, (lenient.tokenize source file).result = .ok tokens →
          tokens.find? Token.isUnknown = some token) ∧
        ∀ error, (lenient.tokenize source file).result = .error error →
          token.span.start.offset < error.position.offset) ∧
    ∀ tokens, (strict.tokenize source file).result = .ok tokens ↔
      (lenient.tokenize source file).result = .ok tokens ∧
        ∀ token ∈ tokens, token.isUnknown = false := by
  obtain ⟨elements, fault?, cut⟩ := exists_cut lenient.strict source.toList
  have warned := Lexer.exists_warn_log_iff cut file
  rcases known_or_exists_unknown elements with known | ⟨known, c, later, rfl, all⟩
  · have same := result_tokenize_strict_of_known isLenient isStrict file cut known
    have quiet : ¬∃ element ∈ elements, element.isUnknown = true := by simpa using known
    refine ⟨fun _ => same, fun warning => absurd (warned.mp warning) quiet, ?_⟩
    intro tokens
    rw [same]
    refine ⟨fun ok => ⟨ok, ?_⟩, And.left⟩
    rw [Lexer.result_tokenize_of_cut cut] at ok
    cases fault? with
    | none =>
      cases ok
      exact cut.isUnknown_of_mem_tokensFrom (List.Subset.refl _) known _
    | some fault => cases ok
  · have unknown := exists_unknown_of_tokenize isLenient isStrict file cut all
    refine ⟨?_, fun _ => unknown, ?_⟩
    · intro quiet
      obtain ⟨record, mem, warning⟩ := warned.mpr ⟨.unknown c, by simp, rfl⟩
      exact absurd warning (quiet record mem)
    · intro tokens
      obtain ⟨token, -, refused, first, -⟩ := unknown
      rw [refused]
      refine ⟨nofun, ?_⟩
      rintro ⟨ok, none⟩
      have found := first tokens ok
      have isUnknown := List.find?_some found
      rw [none token (List.mem_of_find?_eq_some found)] at isUnknown
      cases isUnknown

/-- The lenient scan passes `@` and is refused behind it, where the strict scan does not come to. -/
theorem tokenize_strict_before_fault :
    (Lexer.new false).strict = false ∧ (Lexer.new true).strict = true ∧
      ((Lexer.new false).tokenize "a@1x" "s").result =
        .error ⟨.malformedDecimalLiteral 'x', ⟨3, 1, "s"⟩⟩ ∧
      ((Lexer.new true).tokenize "a@1x" "s").result =
        .error ⟨.unrecognisedToken "@", ⟨1, 1, "s"⟩⟩ := by
  have cut : Cut false ['a', '@', '1', 'x']
      [.verbatim .identifierName ['a'], .unknown '@']
      (some ⟨['1'], .malformedDecimalLiteral 'x'⟩) :=
    .moved rfl rfl (.moved rfl rfl (.failed rfl))
  have result : ((Lexer.new false).tokenize "a@1x" "s").result =
      .error ⟨.malformedDecimalLiteral 'x', ⟨3, 1, "s"⟩⟩ :=
    @Lexer.result_tokenize_of_cut (.new false) "a@1x" _ _ cut "s"
  have pushed : (Lexer.new false).pushed "a@1x" "s" =
      [⟨.identifierName, "a", ⟨⟨0, 1, "s"⟩, ⟨1, 1, "s"⟩⟩⟩,
        ⟨.unknown, "@", ⟨⟨1, 1, "s"⟩, ⟨2, 1, "s"⟩⟩⟩] :=
    @Lexer.pushed_of_cut (.new false) "a@1x" _ _ cut "s"
  have warned : ∃ record ∈ ((Lexer.new false).tokenize "a@1x" "s").log, record.level = .warn :=
    (@Lexer.exists_warn_log_iff (.new false) "a@1x" _ _ cut "s").mpr ⟨.unknown '@', by simp, rfl⟩
  obtain ⟨token, first, refused, -⟩ :=
    (tokenize_strict (.new false) (.new true) rfl rfl "a@1x" "s").2.1 warned
  rw [pushed] at first
  cases first
  exact ⟨rfl, rfl, result, refused⟩

end Lexeme
