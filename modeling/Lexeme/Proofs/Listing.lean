import Mathlib
import Lexeme.CommandLine
import Lexeme.Proofs.Lines
import Lexeme.Proofs.Display
import Lexeme.Proofs.Adjacency

/-!
# The listing of a file

What the command prints for a file that can be read: its tokens in order, or their number. How many
lines the tokens take is not their number, since values are shown as they are and a quoted literal
may hold line ends.

## Main Definitions

* `Token.listed` — the text that a token is listed as
* `Kind.isQuoted` — the kinds of token that are quoted literals

## Design Notes

The two ways of printing are the answers to two requests that differ in `Request.check` alone. They
are compared on the standard output and the exit code; what comes to the standard error depends on
the logger as well (`Answer.log`).
-/

namespace Lexeme

/-! ## The lines of a listing -/

/-- Only the last character of a line may be a line end. -/
theorem Line.newline_notMem_dropLast_of_mem_split (text : List Char) :
    ∀ line ∈ split text, '\n' ∉ line.dropLast := by
  rcases notMem_or_exists_split text with inside | ⟨body, rest, rfl, inside⟩
  · by_cases empty : text = []
    · rw [empty, split_nil]
      exact List.forall_mem_nil _
    · rw [split_of_notMem inside empty, List.forall_mem_singleton]
      exact fun mem => inside (List.dropLast_subset text mem)
  · have shorter : rest.length < (body ++ '\n' :: rest).length := by simp; omega
    rw [split_append_newline inside]
    refine List.forall_mem_cons.mpr ⟨?_, newline_notMem_dropLast_of_mem_split rest⟩
    rwa [List.dropLast_concat]
termination_by text.length

/-- Bodies that are each closed by a line end are the lines of what they make up exactly if none of
them holds a line end of its own. -/
theorem Line.split_flatMap_closed_iff (bodies : List (List Char)) :
    split (bodies.flatMap (· ++ ['\n'])) = bodies.map (· ++ ['\n']) ↔
      ∀ body ∈ bodies, '\n' ∉ body := by
  constructor
  · intro same body mem
    have line : body ++ ['\n'] ∈ split (bodies.flatMap (· ++ ['\n'])) := by
      rw [same]
      exact List.mem_map_of_mem mem
    simpa using newline_notMem_dropLast_of_mem_split _ _ line
  · intro inside
    induction bodies with
    | nil => rfl
    | cons body bodies ih =>
      obtain ⟨first, later⟩ := List.forall_mem_cons.mp inside
      rw [List.flatMap_cons, List.append_assoc, List.singleton_append,
        split_append_newline first, ih later, List.map_cons]

namespace Token

/-- The text that a token is listed as: its display, and a line end. -/
def listed (token : Token) : List Char := token.display.toList ++ ['\n']

/-- The only line ends of a display are those of the value. -/
theorem count_newline_display (token : Token) :
    token.display.toList.count '\n' = token.value.toList.count '\n' := by
  have name : token.kind.name.toList.count '\n' = 0 := by cases token.kind <;> decide
  have place : token.shownPlace.count '\n' = 0 :=
    List.count_eq_zero.mpr (notMem_shownPlace rfl (by decide) token)
  rw [toList_display, List.count_append, name, shownValue]
  simp [place]

/-- So a display is one line exactly if the value holds no line end. -/
theorem newline_notMem_display_iff (token : Token) :
    '\n' ∉ token.display.toList ↔ '\n' ∉ token.value.toList := by
  rw [← List.count_eq_zero, ← List.count_eq_zero, count_newline_display]

/-- The line ends of a listing: one for each token, and those in the values. -/
theorem count_newline_listed (tokens : List Token) :
    (tokens.flatMap listed).count '\n' =
      tokens.length + (tokens.map fun token => token.value.toList.count '\n').sum := by
  induction tokens with
  | nil => rfl
  | cons token tokens ih =>
    have first : token.listed.count '\n' = token.value.toList.count '\n' + 1 := by
      rw [listed, List.count_append, count_newline_display, List.count_singleton_self]
    rw [List.flatMap_cons, List.count_append, first, ih, List.map_cons, List.sum_cons,
      List.length_cons]
    omega

/-- The lines of a listing are the tokens in order exactly if no value holds a line end. -/
theorem split_listed_iff (tokens : List Token) :
    Line.split (tokens.flatMap listed) = tokens.map listed ↔
      ∀ token ∈ tokens, '\n' ∉ token.value.toList := by
  have lines := Line.split_flatMap_closed_iff (tokens.map fun token => token.display.toList)
  rw [List.flatMap_map, List.map_map, List.forall_mem_map] at lines
  exact lines.trans (forall₂_congr fun token _ => token.newline_notMem_display_iff)

end Token

/-! ## Which tokens hold line ends -/

/-- Whether a token of this kind is a quoted literal. -/
def Kind.isQuoted : Kind → Bool
  | charLiteral | stringLiteral | templateString => true
  | _ => false

/-- Every delimiter delimits a quoted literal. -/
theorem Quoted.isQuoted_kindOf (delimiter : Char) : (kindOf delimiter).isQuoted = true := by
  unfold kindOf
  split
  · rfl
  · split <;> rfl

/-- The characters of a value stand in the text that the token is written with. -/
theorem Kind.subset_of_shape {kind : Kind} {value text : List Char}
    (shape : kind.Shape value text) : value ⊆ text := by
  have quoted {delimiter : Char} (encloses : Quoted.Encloses delimiter value text) :
      value ⊆ text := by
    rw [encloses.1]
    exact fun c mem => List.mem_append_left _ (List.mem_cons_of_mem _ mem)
  cases kind with
  | identifierName | statement | operator | token | unknown =>
    obtain rfl : text = value := shape
    exact List.Subset.refl text
  | charLiteral => exact quoted shape.1
  | stringLiteral | templateString => exact quoted shape
  | _ =>
    obtain ⟨mark, digits, -, rfl, rfl⟩ := shape
    exact fun c mem => List.mem_append_right _ (List.mem_of_mem_filter mem)

/-- Only quoted literals go over a line end. -/
theorem Element.isQuoted_of_newline_mem {strict : Bool} {c : Char} {rest : List Char}
    {element : Element} {reading : Reading} (found : first strict c rest = .ok element)
    (reads : element.reading? = some reading) (newline : '\n' ∈ element.text) :
    reading.kind.isQuoted = true := by
  have blank : Text.isBlank '\n' = true := by decide
  cases firstToken_of_first found reads with
  | word letter whole =>
    subst whole
    have alphanumeric : Text.isAlphanumeric '\n' = true := by
      rcases List.mem_cons.mp newline with rfl | later
      · exact Text.isAlphanumeric_of_isAlphabetic letter
      · exact List.mem_takeWhile_imp later
    rw [Text.isAlphanumeric_of_isBlank blank] at alphanumeric
    cases alphanumeric
  | number _ _ => exact absurd newline (Number.newline_notMem_text_scan _)
  | quoted _ ok =>
    obtain ⟨-, -, kind, -⟩ := Quoted.exists_content_of_scan ok
    rw [kind]
    exact Quoted.isQuoted_kindOf c
  | symbol mem => exact absurd newline (Symbol.newline_notMem_of_mem_table mem)
  | unknown notBlank =>
    obtain rfl := List.mem_singleton.mp newline
    rw [blank] at notBlank
    cases notBlank

/-- Only quoted literals have line ends in their values. -/
theorem Lexer.isQuoted_of_newline_mem {lexer : Lexer} {source file : String} {tokens : List Token}
    (ok : (lexer.tokenize source file).result = .ok tokens) {token : Token} (mem : token ∈ tokens)
    (newline : '\n' ∈ token.value.toList) : token.kind.isQuoted = true := by
  obtain ⟨before, c, rest, element, after, -, -, found, reads, -⟩ := exists_first_of_mem ok mem
  have written := Kind.subset_of_shape (Element.shape_of_first found reads) newline
  exact Element.isQuoted_of_newline_mem found reads written

namespace CommandLine

/-! ## Both ways of showing a file -/

section Answer

variable {request : Request} {bytes : ByteArray} {source : String} {tokens : List Token}

/-- A file that has tokens is shown, and nothing goes wrong. -/
theorem answer_of_tokens (text : String.fromUTF8? bytes = some source)
    (ok : ((Lexer.new request.strict).tokenize source (fileName request.input)).result =
      .ok tokens) :
    (answer request (.ok bytes)).code = 0 ∧
      (answer request (.ok bytes)).output = summary request tokens := by
  have answered : answer request (.ok bytes) = scan request source := by rw [answer, text]
  rw [answered, scan, ok]
  exact ⟨rfl, rfl⟩

/-- Without `check` the tokens are listed one after the other. -/
theorem toList_summary (plain : request.check = false) (tokens : List Token) :
    (summary request tokens).toList = tokens.flatMap Token.listed := by
  have listed (token : Token) : (token.display ++ "\n").toList = token.listed := by
    rw [String.toList_append, Token.listed]
    rfl
  rw [summary, plain, if_neg Bool.false_ne_true, unlines, String.toList_join, List.map_map,
    List.flatMap_map]
  exact congrArg (tokens.flatMap ·) (funext listed)

end Answer

/-- **The listing of a file.**  A file whose text has tokens is shown with exit code 0, whether its
tokens are asked for or their number. The tokens are listed in order, each by its display and a line
end, so the lines are as many as the tokens and the line ends in their values together. They are the
displays of the tokens exactly if no value holds a line end, and only the values of quoted literals
do. -/
theorem listing_of_tokens (request : Request) (bytes : ByteArray) (source : String)
    (tokens : List Token) (text : String.fromUTF8? bytes = some source)
    (ok : ((Lexer.new request.strict).tokenize source (fileName request.input)).result =
      .ok tokens) :
    (∃ listing, (answer { request with check := false } (.ok bytes)).code = 0 ∧
      (answer { request with check := false } (.ok bytes)).output = listing ∧
      listing.toList = tokens.flatMap Token.listed ∧
      listing.toList.count '\n' =
        tokens.length + (tokens.map fun token => token.value.toList.count '\n').sum ∧
      (Line.split listing.toList = tokens.map Token.listed ↔
        ∀ token ∈ tokens, '\n' ∉ token.value.toList)) ∧
    ((answer { request with check := true } (.ok bytes)).code = 0 ∧
      (answer { request with check := true } (.ok bytes)).output =
        fileName request.input ++ ": " ++ Text.decimal tokens.length ++ " tokens\n") ∧
    ∀ token ∈ tokens, '\n' ∈ token.value.toList → token.kind.isQuoted = true := by
  have shown (check : Bool) : (answer { request with check } (.ok bytes)).code = 0 ∧
      (answer { request with check } (.ok bytes)).output = summary { request with check } tokens :=
    answer_of_tokens text ok
  have listed : (summary { request with check := false } tokens).toList =
      tokens.flatMap Token.listed := toList_summary rfl tokens
  refine ⟨⟨_, (shown false).1, (shown false).2, listed, ?_, ?_⟩, shown true,
    fun token => Lexer.isQuoted_of_newline_mem ok⟩
  · rw [listed]
    exact Token.count_newline_listed tokens
  · rw [listed]
    exact Token.split_listed_iff tokens

/-- Two tokens on two lines are listed on two lines. -/
theorem listing_of_tokens_on_two_lines :
    (answer ⟨"a.src", false, false⟩ (.ok "a\n;".toUTF8)).code = 0 ∧
    (answer ⟨"a.src", false, false⟩ (.ok "a\n;".toUTF8)).output =
      "IdentifierName (a) @1:0\nToken (;) @2:2\n" ∧
    (answer ⟨"a.src", false, true⟩ (.ok "a\n;".toUTF8)).output = "a.src: 2 tokens\n" ∧
    Line.split "IdentifierName (a) @1:0\nToken (;) @2:2\n".toList =
      ["IdentifierName (a) @1:0\n".toList, "Token (;) @2:2\n".toList] := by
  have ok : ((Lexer.new false).tokenize "a\n;" "a.src").result =
      .ok [⟨.identifierName, "a", ⟨⟨0, 1, "a.src"⟩, ⟨1, 1, "a.src"⟩⟩⟩,
        ⟨.token, ";", ⟨⟨2, 2, "a.src"⟩, ⟨3, 2, "a.src"⟩⟩⟩] := by cbv
  obtain ⟨⟨listing, code, printed, text, -, lines⟩, ⟨-, counted⟩, -⟩ :=
    listing_of_tokens ⟨"a.src", false, false⟩ _ _ _ (dif_pos (String.isValidUTF8 _)) ok
  obtain rfl : listing = "IdentifierName (a) @1:0\nToken (;) @2:2\n" := by
    rw [← String.toList_inj, text]
    rfl
  exact ⟨code, printed, counted, lines.mpr (by decide)⟩

/-- One token is listed on two lines if its value holds a line end. -/
theorem listing_breaks_at_line_end :
    (answer ⟨"a.src", false, false⟩ (.ok "\"a\nb\"".toUTF8)).code = 0 ∧
    (answer ⟨"a.src", false, false⟩ (.ok "\"a\nb\"".toUTF8)).output =
      "StringLiteral (a\nb) @1:0\n" ∧
    (answer ⟨"a.src", false, true⟩ (.ok "\"a\nb\"".toUTF8)).output = "a.src: 1 tokens\n" ∧
    "StringLiteral (a\nb) @1:0\n".toList.count '\n' = 2 ∧
    Line.split "StringLiteral (a\nb) @1:0\n".toList =
      ["StringLiteral (a\n".toList, "b) @1:0\n".toList] :=
  ⟨by cbv, by cbv, by cbv, by decide, by decide⟩

end CommandLine

end Lexeme
