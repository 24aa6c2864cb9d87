import Mathlib
import Lexeme.Proofs.Collecting
import Lexeme.Proofs.Coverage
import Lexeme.Proofs.Numerals

/-!
# The literals of a source

What the literals denote that are read from the tokens of a source.

## Main Definitions

* `Literal.Denotes` — what the source under a token denotes
* `Literal.Reads` — a literal that is what its token says
* `Token.overflows` — the one reason why a token of a source denotes nothing

## Design Notes

A token stream takes any tokens, and `Literal.ofToken` refuses what it cannot read in four ways. On
tokens of a source one of them is left: an integer may not fit into 64 bits. The shape of a token
(`Kind.Shape`) rules out the others, since it says how the value is written.
-/

namespace Lexeme

/-! ## Written integers -/

namespace Number

/-- A written integer has digits of its base, and at least one. -/
theorem Written.isBody {kind : Kind} {radix : Nat} {mark digits : List Char}
    (written : Written kind mark digits) (base : kind.radix? = some radix) :
    digits ≠ [] ∧ IsBody kind.digits digits := by
  cases written with
  | decimal integer => exact ⟨integer.ne_nil, integer.body⟩
  | float _ _ _ => cases base
  | marked _ nonempty body => exact ⟨nonempty, body⟩

end Number

/-! ## What tokens denote -/

/-- What the source under a token of a kind denotes. -/
inductive Literal.Denotes : Kind → List Char → Literal.Value → Prop
  /-- An integer is the value of its digits, without the mark of the base and the separators. -/
  | integer {kind : Kind} {radix : Nat} {mark digits : List Char}
      (base : kind.radix? = some radix) (written : Number.Written kind mark digits) :
      Denotes kind (mark ++ digits)
        (.integer (Numeral.positional radix (digits.filter (· ≠ '_'))))
  /-- A number with a point is the one nearest to its digits. -/
  | float {whole fraction : List Char} (integer : whole = [] ∨ Number.IsWhole whole)
      (nonempty : fraction ≠ []) (body : Number.IsBody Kind.floatLiteral.digits fraction) :
      Denotes .floatLiteral (whole ++ '.' :: fraction)
        (.float (.ofDigits (whole.filter (· ≠ '_')) (fraction.filter (· ≠ '_'))))
  /-- A character is what stands between single quotes. -/
  | char {c : Char} : Denotes .charLiteral ['\'', c, '\''] (.char c)
  /-- A string is what stands between double quotes. -/
  | string {content : List Char} (inside : '"' ∉ content) :
      Denotes .stringLiteral ('"' :: content ++ ['"']) (.string (String.ofList content))
  /-- A template is what stands between backquotes. -/
  | template {content : List Char} (inside : '\x60' ∉ content) :
      Denotes .templateString ('\x60' :: content ++ ['\x60']) (.template (String.ofList content))

/-- A literal stands where its token does, and its value is what the source there denotes. -/
structure Literal.Reads (source : List Char) (token : Token) (literal : Literal) : Prop where
  /-- The literal covers the same stretch of source. -/
  span_eq : literal.span = token.span
  /-- The value is written there. -/
  denotes : Literal.Denotes token.kind
    (slice source token.span.start.offset token.span.stop.offset) literal.value

/-- Whether a token is an integer from `2 ^ 63` on, which 64 bits cannot hold. -/
def Token.overflows (token : Token) : Bool :=
  token.kind.radix?.any fun radix =>
    decide (2 ^ 63 ≤ Numeral.positional radix token.value.toList)

namespace Literal

/-- Integers of every base are shaped alike. -/
theorem exists_written_of_shape {kind : Kind} {radix : Nat} {value text : List Char}
    (base : kind.radix? = some radix) (shape : kind.Shape value text) :
    ∃ mark digits, Number.Written kind mark digits ∧ text = mark ++ digits ∧
      value = digits.filter (· ≠ '_') := by
  cases kind <;> cases base <;> exact shape

/-- An integer of a source is read unless it is too large. -/
theorem Value.ofText_of_written {kind : Kind} {radix : Nat} {mark digits : List Char} {text : String}
    (base : kind.radix? = some radix) (written : Number.Written kind mark digits)
    (value : text.toList = digits.filter (· ≠ '_')) :
    Value.ofText kind text =
      if Numeral.positional radix text.toList < 2 ^ 63 then
        .ok (.integer (Numeral.positional radix text.toList))
      else .error (.numberParseError text) := by
  obtain ⟨nonempty, body⟩ := written.isBody base
  rw [ofText_of_radix? base, value,
    Numeral.integer?_of_digits base (body.filter_ne_nil nonempty) body.mem_digits]
  by_cases fits : Numeral.positional radix (digits.filter (· ≠ '_')) < 2 ^ 63
  · rw [if_pos fits, if_pos fits]
  · rw [if_neg fits, if_neg fits]

/-- A number of a source with a point is read. -/
theorem Value.ofText_of_fraction {whole fraction : List Char} {text : String}
    (integer : whole = [] ∨ Number.IsWhole whole) (nonempty : fraction ≠ [])
    (body : Number.IsBody Kind.floatLiteral.digits fraction)
    (value : text.toList = (whole ++ '.' :: fraction).filter (· ≠ '_')) :
    Value.ofText .floatLiteral text =
      .ok (.float (.ofDigits (whole.filter (· ≠ '_')) (fraction.filter (· ≠ '_')))) := by
  have decimal : ∀ c ∈ Kind.floatLiteral.digits, c.isDigit = true := by
    intro c mem
    exact (Number.accepts_iff_mem .float c).mpr mem
  have before : ∀ c ∈ whole.filter (· ≠ '_'), c.isDigit = true := by
    rcases integer with rfl | integer
    · nofun
    · intro c mem
      exact decimal c (integer.body.mem_digits c mem)
  have after : ∀ c ∈ fraction.filter (· ≠ '_'), c.isDigit = true := by
    intro c mem
    exact decimal c (body.mem_digits c mem)
  rw [Value.ofText, value, Number.filter_append_point,
    Binary64.ofText?_of_digits before (body.filter_ne_nil nonempty) after]

/-- A token of a source that overflows is refused for its digits. -/
theorem ofToken_of_overflows {token : Token} {text : List Char}
    (shape : token.kind.Shape token.value.toList text) (overflows : token.overflows = true) :
    ofToken token = .error ⟨.numberParseError token.value, token.span.start⟩ := by
  obtain ⟨radix, base, large⟩ := (Option.any_eq_true _ _).mp overflows
  obtain ⟨mark, digits, written, -, value⟩ := exists_written_of_shape base shape
  have fits : ¬Numeral.positional radix token.value.toList < 2 ^ 63 :=
    Nat.not_lt.mpr (of_decide_eq_true large)
  rw [ofToken, Value.ofText_of_written base written value, if_neg fits]

/-- A literal token of a source that does not overflow is read, and denotes what is written. -/
theorem exists_ofToken_of_shape {token : Token} {text : List Char}
    (shape : token.kind.Shape token.value.toList text) (literal : token.kind.isLiteral = true)
    (fits : token.overflows = false) :
    ∃ value, ofToken token = .ok ⟨value, token.span⟩ ∧ Denotes token.kind text value := by
  suffices read : ∃ value, Value.ofText token.kind token.value = .ok value ∧
      Denotes token.kind text value by
    obtain ⟨value, ok, denotes⟩ := read
    exact ⟨value, by rw [ofToken, ok], denotes⟩
  obtain ⟨kind, value, span⟩ := token
  dsimp only at shape literal ⊢
  -- Integers of all bases are read alike; every other kind of literal has a reader of its own.
  cases base : kind.radix? with
  | some radix =>
    obtain ⟨mark, digits, written, rfl, digitsEq⟩ := exists_written_of_shape base shape
    have small : Numeral.positional radix value.toList < 2 ^ 63 := by
      simpa [Token.overflows, base] using fits
    refine ⟨.integer (Numeral.positional radix (digits.filter (· ≠ '_'))), ?_, .integer base written⟩
    rw [Value.ofText_of_written base written digitsEq, if_pos small, digitsEq]
  | none =>
    cases kind with
    | floatLiteral =>
      obtain ⟨mark, digits, written, rfl, digitsEq⟩ := shape
      cases written with
      | float integer nonempty body =>
        exact ⟨_, Value.ofText_of_fraction integer nonempty body digitsEq,
          .float integer nonempty body⟩
      | marked mem _ _ => cases mem
    | charLiteral =>
      obtain ⟨⟨rfl, other⟩, single⟩ := shape
      obtain ⟨c, one⟩ := List.length_eq_one_iff.mp single
      rw [one]
      refine ⟨.char c, ?_, .char⟩
      rw [Value.ofText, one]
    | stringLiteral =>
      obtain ⟨rfl, inside⟩ := shape
      have denotes := Denotes.string inside
      rw [String.ofList_toList] at denotes
      exact ⟨.string value, rfl, denotes⟩
    | templateString =>
      obtain ⟨rfl, inside⟩ := shape
      have denotes := Denotes.template inside
      rw [String.ofList_toList] at denotes
      exact ⟨.template value, rfl, denotes⟩
    | numericLiteral | binaryLiteral | octalLiteral | hexaLiteral => cases base
    | _ => cases literal

end Literal

/-! ## Reading all literals -/

/-- A token that overflows is a literal. -/
theorem Token.isLiteral_of_overflows {token : Token} (overflows : token.overflows = true) :
    token.isLiteral = true := by
  obtain ⟨radix, base, -⟩ := (Option.any_eq_true _ _).mp overflows
  exact Kind.isLiteral_of_radix? base

section Shapes

variable {source : List Char} {tokens : List Token}
  (shapes : ∀ token ∈ tokens, token.kind.Shape token.value.toList
    (slice source token.span.start.offset token.span.stop.offset))
include shapes

/-- Tokens of a source that do not overflow are read. -/
theorem exists_mapM_ofToken (fits : ∀ token ∈ tokens, token.overflows = false) :
    ∃ literals, (tokens.filter Token.isLiteral).mapM Literal.ofToken = .ok literals ∧
      List.Forall₂ (Literal.Reads source) (tokens.filter Token.isLiteral) literals := by
  induction tokens with
  | nil => exact ⟨[], rfl, .nil⟩
  | cons token tokens ih =>
    obtain ⟨shape, shapes⟩ := List.forall_mem_cons.mp shapes
    obtain ⟨fit, fits⟩ := List.forall_mem_cons.mp fits
    obtain ⟨literals, ok, reads⟩ := ih shapes fits
    by_cases literal : token.isLiteral = true
    · obtain ⟨value, here, denotes⟩ := Literal.exists_ofToken_of_shape shape literal fit
      rw [List.filter_cons_of_pos literal]
      refine ⟨⟨value, token.span⟩ :: literals, ?_, .cons ⟨rfl, denotes⟩ reads⟩
      rw [List.mapM_cons, here, ok]
      rfl
    · rw [List.filter_cons_of_neg literal]
      exact ⟨literals, ok, reads⟩

/-- Reading the tokens of a source stops at the first one that overflows. -/
theorem mapM_ofToken_of_overflows {token : Token}
    (first : tokens.find? Token.overflows = some token) :
    (tokens.filter Token.isLiteral).mapM Literal.ofToken =
      .error ⟨.numberParseError token.value, token.span.start⟩ := by
  obtain ⟨overflows, before, after, rfl, fits⟩ := List.find?_eq_some_iff_append.mp first
  have here := shapes token (by simp)
  obtain ⟨literals, ok, -⟩ := exists_mapM_ofToken
    (fun other mem => shapes other (List.mem_append_left _ mem))
    fun other mem => by simpa using fits other mem
  rw [List.filter_append, List.filter_cons_of_pos (Token.isLiteral_of_overflows overflows),
    List.mapM_append, ok, List.mapM_cons, Literal.ofToken_of_overflows here overflows]
  rfl

end Shapes

/-- **The literals of a source.**  Reading the literals among the tokens of a source fails exactly if
an integer does not fit into 64 bits, and then at the first such integer. Otherwise every literal
token is read, in order, and denotes what the source under it says. -/
theorem literals_of_tokenize (lexer : Lexer) (source file : String) (tokens : List Token)
    (ok : (lexer.tokenize source file).result = .ok tokens) (name : String) :
    ((∃ error, (TokenStream.ofList tokens name).literals = .error error) ↔
      ∃ token ∈ tokens, token.overflows = true) ∧
    (∀ token, tokens.find? Token.overflows = some token →
      (TokenStream.ofList tokens name).literals =
        .error ⟨.numberParseError token.value, token.span.start⟩) ∧
    ∀ literals, (TokenStream.ofList tokens name).literals = .ok literals →
      List.Forall₂ (Literal.Reads source.toList) (tokens.filter Token.isLiteral) literals := by
  have shapes := (layout_of_tokenize ok).shapes
  have refused {token : Token} (first : tokens.find? Token.overflows = some token) :=
    mapM_ofToken_of_overflows shapes first
  have read (none : tokens.find? Token.overflows = none) :=
    exists_mapM_ofToken shapes fun token mem => by
      simpa using List.find?_eq_none.mp none token mem
  rw [TokenStream.literals_ofList]
  refine ⟨?_, fun token => refused, ?_⟩
  · rw [← List.find?_isSome]
    cases first : tokens.find? Token.overflows with
    | some token => exact ⟨fun _ => rfl, fun _ => ⟨_, refused first⟩⟩
    | none =>
      obtain ⟨literals, ok, -⟩ := read first
      refine ⟨?_, nofun⟩
      rintro ⟨error, failed⟩
      rw [ok] at failed
      cases failed
  · intro literals ok
    cases first : tokens.find? Token.overflows with
    | some token =>
      rw [refused first] at ok
      cases ok
    | none =>
      obtain ⟨found, okFound, reads⟩ := read first
      obtain rfl : found = literals := Except.ok.inj (okFound.symm.trans ok)
      exact reads

/-- The least integer that is refused, after one that is read. -/
theorem literals_of_tokenize_at_limit :
    (TokenStream.ofList
      [⟨.numericLiteral, "7", ⟨⟨0, 1, "s"⟩, ⟨1, 1, "s"⟩⟩⟩,
       ⟨.hexaLiteral, "8000000000000000", ⟨⟨2, 1, "s"⟩, ⟨23, 1, "s"⟩⟩⟩] "s").literals =
      .error ⟨.numberParseError "8000000000000000", ⟨2, 1, "s"⟩⟩ := by
  have ok : ((Lexer.new true).tokenize "7 0x8000_0000_0000_0000" "s").result =
      .ok [⟨.numericLiteral, "7", ⟨⟨0, 1, "s"⟩, ⟨1, 1, "s"⟩⟩⟩,
        ⟨.hexaLiteral, "8000000000000000", ⟨⟨2, 1, "s"⟩, ⟨23, 1, "s"⟩⟩⟩] := by cbv
  exact (literals_of_tokenize (Lexer.new true) "7 0x8000_0000_0000_0000" "s" _ ok "s").2.1 _ rfl

end Lexeme
