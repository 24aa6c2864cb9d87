import Lexeme.Binary64
import Lexeme.Error
import Lexeme.Token

/-!
# Literals

The values that literal tokens denote.

## Main Definitions

* `Literal.Value` — a 64-bit integer, a binary64 number, a character, a string or a template
* `Literal` — a value and the stretch of source it is written in
* `Literal.ofToken` — the literal that a token is, or why it is none

## Design Notes

A token is taken as given: its value need not be one that a lexer could have read. So an integer
may carry a sign here, and a character literal may be refused for its length.
-/

namespace Lexeme

/-- What a literal token denotes. -/
inductive Literal.Value
  /-- An integer of 64 bits. -/
  | integer (n : Int)
  /-- A floating-point number. -/
  | float (x : Binary64)
  /-- One character. -/
  | char (c : Char)
  /-- The text between double quotes. -/
  | string (text : String)
  /-- The text between backquotes. -/
  | template (text : String)
  deriving DecidableEq

/-- A value and where it is written. -/
structure Literal where
  /-- What is denoted. -/
  value : Literal.Value
  /-- The stretch of source that denotes it. -/
  span : Span
  deriving DecidableEq

namespace Literal

/-- The name of a value's type as it is shown. -/
def Value.name : Value → String
  | integer _ => "Integer"
  | float _ => "Float"
  | char _ => "Char"
  | string _ => "String"
  | template _ => "Template"

/-- The value that a token of a kind with the given text denotes. -/
def Value.ofText (kind : Kind) (text : String) : Except Cause Value :=
  match kind with
  | .numericLiteral | .binaryLiteral | .octalLiteral | .hexaLiteral =>
    match kind.radix?.bind (Numeral.integer? · text.toList) with
    | some n => .ok (.integer n)
    | none => .error (.numberParseError text)
  | .floatLiteral =>
    match Binary64.ofText? text.toList with
    | some x => .ok (.float x)
    | none => .error (.numberParseError text)
  | .charLiteral =>
    match text.toList with
    | [c] => .ok (.char c)
    | _ => .error (.charLiteralOverflow text)
  | .stringLiteral => .ok (.string text)
  | .templateString => .ok (.template text)
  | _ => .error (.unexpectedToken text)

/-- The literal that a token is; a token that is none is refused where it starts. -/
def ofToken (token : Token) : Except Error Literal :=
  match Value.ofText token.kind token.value with
  | .ok value => .ok ⟨value, token.span⟩
  | .error cause => .error ⟨cause, token.span.start⟩

end Literal

end Lexeme
