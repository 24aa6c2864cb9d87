import Lexeme.Position
import Lexeme.Text.Digits

/-!
# Tokens

The pieces a source is cut into: each has a kind, a value and the stretch of source it covers.

## Main Definitions

* `Kind` — the thirteen kinds of token, with `Kind.name`, `Kind.isLiteral` and `Kind.radix?`
* `Token` — kind, value and span
* `Token.display` — the one-line form `Kind (value) @line:offset`
-/

namespace Lexeme

/-- What a token is. -/
inductive Kind
  /-- A word that is not reserved. -/
  | identifierName
  /-- A reserved word. -/
  | statement
  /-- A decimal integer. -/
  | numericLiteral
  /-- A decimal number with a point. -/
  | floatLiteral
  /-- An integer after `0b`. -/
  | binaryLiteral
  /-- An integer after `0o`. -/
  | octalLiteral
  /-- An integer after `0x`. -/
  | hexaLiteral
  /-- One character in single quotes. -/
  | charLiteral
  /-- Text in double quotes. -/
  | stringLiteral
  /-- Text in backquotes. -/
  | templateString
  /-- An operator, `instanceof` included. -/
  | operator
  /-- A bracket, a separator or another mark of structure. -/
  | token
  /-- A character that starts no token of another kind. -/
  | unknown
  deriving DecidableEq

namespace Kind

/-- The kind's name as it is shown. -/
def name : Kind → String
  | identifierName => "IdentifierName"
  | statement => "Statement"
  | numericLiteral => "NumericLiteral"
  | floatLiteral => "FloatLiteral"
  | binaryLiteral => "BinaryLiteral"
  | octalLiteral => "OctalLiteral"
  | hexaLiteral => "HexaLiteral"
  | charLiteral => "CharLiteral"
  | stringLiteral => "StringLiteral"
  | templateString => "TemplateString"
  | operator => "Operator"
  | token => "Token"
  | unknown => "Unknown"

/-- All kinds, in the order of their declaration. -/
def all : List Kind :=
  [identifierName, statement, numericLiteral, floatLiteral, binaryLiteral, octalLiteral,
   hexaLiteral, charLiteral, stringLiteral, templateString, operator, token, unknown]

/-- The kind that a name stands for. -/
def ofName? (name : String) : Option Kind := all.find? (·.name == name)

/-- The base in which the value of an integer literal is written. -/
def radix? : Kind → Option Nat
  | numericLiteral => some 10
  | binaryLiteral => some 2
  | octalLiteral => some 8
  | hexaLiteral => some 16
  | _ => none

/-- Whether a token of this kind denotes a value. -/
def isLiteral : Kind → Bool
  | numericLiteral | floatLiteral | binaryLiteral | octalLiteral | hexaLiteral => true
  | charLiteral | stringLiteral | templateString => true
  | _ => false

/-- Integer literals are literals. -/
theorem isLiteral_of_radix? {k : Kind} {radix : Nat} (h : k.radix? = some radix) :
    k.isLiteral = true := by
  cases k <;> simp_all [radix?, isLiteral]

end Kind

/-- A piece of source with a meaning of its own. -/
structure Token where
  /-- What the token is. -/
  kind : Kind
  /-- The part of its text that matters: without quotes, base prefix and digit separators. -/
  value : String
  /-- The stretch of source the token covers. -/
  span : Span
  deriving DecidableEq

namespace Token

/-- The one-line form `Kind (value) @line:offset`. -/
def display (t : Token) : String :=
  t.kind.name ++ " (" ++ t.value ++ ") @" ++ Text.decimal t.span.start.line ++ ":" ++
    Text.decimal t.span.start.offset

end Token

end Lexeme
