import Lexeme.Literal

/-!
# Token streams

A place between two tokens of a list, from which a reader takes one token after another.

## Main Definitions

* `TokenStream` — the tokens passed and the tokens left
* `TokenStream.advance`, `TokenStream.expect`, `TokenStream.primary` — the ways to pass a token
* `TokenStream.position` — where the stream stands in the source
* `TokenStream.literals` — the literals among the tokens left

## Design Notes

`expect` and `primary` are actions on a stream that they may change, and one that fails leaves a
stream behind as well. That it is the one before, and that the error stands at
`TokenStream.position`, is a theorem about them: `primary` reads the token before it passes it, and
an error stands where the token does that is refused.
-/

namespace Lexeme

/-- A place between two tokens of a list. -/
structure TokenStream where
  /-- The name of the file the tokens are from. -/
  file : String
  /-- The tokens passed, nearest first. -/
  passed : List Token
  /-- The tokens left. -/
  rest : List Token

namespace TokenStream

/-- A stream before the first token of a list. -/
def ofList (tokens : List Token) (file : String) : TokenStream := ⟨file, [], tokens⟩

/-- All tokens of the stream, wherever it stands. -/
def tokens (stream : TokenStream) : List Token := stream.passed.reverse ++ stream.rest

/-- The first token left. -/
def current? (stream : TokenStream) : Option Token := stream.rest.head?

/-- The kind of the first token left. -/
def kind? (stream : TokenStream) : Option Kind := stream.current?.map Token.kind

/-- Whether there are tokens left. -/
def hasTokens (stream : TokenStream) : Bool := !stream.rest.isEmpty

/-- Passes one token; at the end the stream stays. -/
def advance (stream : TokenStream) : TokenStream :=
  match stream.rest with
  | [] => stream
  | token :: rest => { stream with passed := token :: stream.passed, rest := rest }

/-- The place of the first token left, or the place just past the last token. -/
def position (stream : TokenStream) : Position :=
  match stream.rest, stream.passed with
  | token :: _, _ => token.span.start
  | [], token :: _ => token.span.stop
  | [], [] => .start stream.file

/-- What is found when no token is left. -/
def endOfInput : String := "end of input"

/-- Passes a token that must be of the given kind. -/
def expect (kind : Kind) : EStateM Error TokenStream Token := do
  let stream ← get
  match stream.current? with
  | some token =>
    if token.kind = kind then
      modify advance
      return token
    else throw ⟨.unexpectedToken token.value, token.span.start⟩
  | none => throw ⟨.unexpectedToken endOfInput, stream.position⟩

/-- Passes a token that must be a literal. -/
def primary : EStateM Error TokenStream Literal := do
  let stream ← get
  match stream.current? with
  | some token =>
    let literal ← MonadExcept.ofExcept (Literal.ofToken token)
    modify advance
    return literal
  | none => throw ⟨.unexpectedToken endOfInput, stream.position⟩

theorem rest_advance (stream : TokenStream) : stream.advance.rest = stream.rest.tail := by
  unfold advance; split <;> simp_all

/-- Moving keeps the tokens. -/
@[simp] theorem tokens_advance (stream : TokenStream) : stream.advance.tokens = stream.tokens := by
  unfold advance; split <;> simp_all [tokens]

/-! ## What the actions leave behind -/

section Actions

variable (file : String) (passed rest : List Token) (token : Token)

/-- A token of the kind that is expected is passed. -/
theorem run_expect_of_eq :
    (expect token.kind).run ⟨file, passed, token :: rest⟩ =
      .ok token ⟨file, token :: passed, rest⟩ := by
  simp only [expect, EStateM.run_bind, EStateM.run_get, current?, List.head?_cons, if_pos]
  rfl

/-- A token of another kind is refused where it starts. -/
theorem run_expect_of_ne {kind : Kind} (other : token.kind ≠ kind) :
    (expect kind).run ⟨file, passed, token :: rest⟩ =
      .error ⟨.unexpectedToken token.value, token.span.start⟩ ⟨file, passed, token :: rest⟩ := by
  simp only [expect, EStateM.run_bind, EStateM.run_get, current?, List.head?_cons, if_neg other]
  rfl

/-- A token that denotes a literal is passed. -/
theorem run_primary_of_ok {literal : Literal} (reads : Literal.ofToken token = .ok literal) :
    primary.run ⟨file, passed, token :: rest⟩ = .ok literal ⟨file, token :: passed, rest⟩ := by
  simp only [primary, EStateM.run_bind, EStateM.run_get, current?, List.head?_cons, reads]
  rfl

/-- A token that denotes none is refused. -/
theorem run_primary_of_error {error : Error} (refused : Literal.ofToken token = .error error) :
    primary.run ⟨file, passed, token :: rest⟩ = .error error ⟨file, passed, token :: rest⟩ := by
  simp only [primary, EStateM.run_bind, EStateM.run_get, current?, List.head?_cons, refused]
  rfl

end Actions

/-- Reading a literal passes one token. -/
theorem eq_advance_of_primary {stream next : TokenStream} {literal : Literal}
    (ok : primary.run stream = .ok literal next) : next = stream.advance := by
  obtain ⟨file, passed, rest⟩ := stream
  cases rest with
  | nil => cases ok
  | cons token rest =>
    cases reads : Literal.ofToken token with
    | error error => rw [run_primary_of_error _ _ _ _ reads] at ok; cases ok
    | ok literal => rw [run_primary_of_ok _ _ _ _ reads] at ok; cases ok; rfl

/-- Adds the literals among the tokens left to the ones found before, passing over all other
tokens; the first literal token that denotes nothing is an error. -/
def literalsFrom (found : Array Literal) (stream : TokenStream) :
    Except Error (List Literal) :=
  match _left : stream.current? with
  | none => .ok found.toList
  | some token =>
    if token.kind.isLiteral then
      match _passed : primary.run stream with
      | .ok literal next => next.literalsFrom (found.push literal)
      | .error error _ => .error error
    else stream.advance.literalsFrom found
termination_by stream.rest.length
decreasing_by
  all_goals
    have shorter : stream.advance.rest.length < stream.rest.length := by
      rw [rest_advance]
      unfold current? at _left
      cases left : stream.rest with
      | nil => simp [left] at _left
      | cons _ _ => simp
    first
      | exact shorter
      | exact eq_advance_of_primary _passed ▸ shorter

/-- The literals among the tokens left, in order. -/
def literals (stream : TokenStream) : Except Error (List Literal) := stream.literalsFrom #[]

end TokenStream

end Lexeme
