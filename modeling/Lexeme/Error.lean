import Lexeme.Position
import Lexeme.Text.Escape

/-!
# Errors

Why a source cannot be read, and where.

## Main Definitions

* `Cause` — the sixteen reasons, each with what it found
* `Cause.name`, `Cause.message`, `Cause.tip?` — how a reason is shown
* `Error` — a cause and its position
* `Error.display` — the one-line form `file:line:offset: message`

## Design Notes

A cause says what was found, never where: the same text gives the same cause wherever it stands in
a file. The wording is in `Cause.message` and `Cause.tip?` alone. Messages quote what was found
with `Text.quoteString` and `Text.quoteChar`; tips show it as it is.
-/

namespace Lexeme

/-- Why a source cannot be read. -/
inductive Cause
  /-- A character that starts no token. -/
  | unrecognisedToken (token : String)
  /-- A token of another kind than the one wanted. -/
  | unexpectedToken (token : String)
  /-- The value of a number literal denotes no number of its type. -/
  | numberParseError (token : String)
  /-- A character in a binary literal that is not a binary digit. -/
  | malformedBinaryLiteral (found : Char)
  /-- A character in an octal literal that is not an octal digit. -/
  | malformedOctalLiteral (found : Char)
  /-- A character in a hexadecimal literal that is not a hexadecimal digit. -/
  | malformedHexLiteral (found : Char)
  /-- A letter in a decimal number. -/
  | malformedDecimalLiteral (found : Char)
  /-- A letter, digit or separator after a leading zero that marks no base. -/
  | invalidBaseMarker (found : Char)
  /-- A second point in a number. -/
  | multipleFloatDots
  /-- A point in a number with a base prefix. -/
  | floatOnBasePrefixedLiteral
  /-- A digit separator that is not between two digits; `duplicate` if another one follows it. -/
  | misplacedOrDuplicateSeparator (duplicate : Bool)
  /-- A number that ends in something other than a digit. -/
  | numberMustEndNumeric (found : Char)
  /-- More than one character in single quotes. -/
  | charLiteralOverflow (content : String)
  /-- Nothing between single quotes. -/
  | emptyCharLiteral
  /-- A quoted literal without its closing quote. -/
  | unterminatedLiteral (delimiter : Char)
  /-- A block comment without its end. -/
  | unterminatedComment
  deriving DecidableEq

namespace Cause

/-- The cause's name as it is shown. -/
def name : Cause → String
  | unrecognisedToken _ => "UnrecognisedToken"
  | unexpectedToken _ => "UnexpectedToken"
  | numberParseError _ => "NumberParseError"
  | malformedBinaryLiteral _ => "MalformedBinaryLiteral"
  | malformedOctalLiteral _ => "MalformedOctalLiteral"
  | malformedHexLiteral _ => "MalformedHexLiteral"
  | malformedDecimalLiteral _ => "MalformedDecimalLiteral"
  | invalidBaseMarker _ => "InvalidBaseMarker"
  | multipleFloatDots => "MultipleFloatDots"
  | floatOnBasePrefixedLiteral => "FloatOnBasePrefixedLiteral"
  | misplacedOrDuplicateSeparator _ => "MisplacedOrDuplicateSeparator"
  | numberMustEndNumeric _ => "NumberMustEndNumeric"
  | charLiteralOverflow _ => "CharLiteralOverflow"
  | emptyCharLiteral => "EmptyCharLiteral"
  | unterminatedLiteral _ => "UnterminatedLiteral"
  | unterminatedComment => "UnterminatedComment"

/-- What went wrong, in one line. -/
def message : Cause → String
  | unrecognisedToken token => "unrecognised token: " ++ Text.quoteString token
  | unexpectedToken token => "unexpected token: " ++ Text.quoteString token
  | numberParseError token => "error parsing number: " ++ Text.quoteString token
  | malformedBinaryLiteral found =>
    "malformed binary literal: " ++ Text.quoteChar found ++ " is not a binary digit"
  | malformedOctalLiteral found =>
    "malformed octal literal: " ++ Text.quoteChar found ++ " is not an octal digit"
  | malformedHexLiteral found =>
    "malformed hexadecimal literal: " ++ Text.quoteChar found ++ " is not a hexadecimal digit"
  | malformedDecimalLiteral found =>
    "malformed number: " ++ Text.quoteChar found ++ " is not a decimal digit"
  | invalidBaseMarker found =>
    "invalid base marker " ++ Text.quoteChar found ++ " after a leading zero"
  | multipleFloatDots => "only one dot is permitted in a float literal"
  | floatOnBasePrefixedLiteral => "base-prefixed numbers cannot be float"
  | misplacedOrDuplicateSeparator true => "consecutive digit separators"
  | misplacedOrDuplicateSeparator false => "misplaced digit separator"
  | numberMustEndNumeric found =>
    "number must end with a digit, found " ++ Text.quoteChar found
  | charLiteralOverflow content =>
    "content " ++ Text.quoteString content ++ " overflows the size of this type"
  | emptyCharLiteral => "empty char literal"
  | unterminatedLiteral delimiter =>
    "unterminated literal, expected closing " ++ Text.quoteChar delimiter
  | unterminatedComment => "unterminated block comment"

/-- What to do about it, where there is something to say. -/
def tip? : Cause → Option String
  | unrecognisedToken _ => none
  | unexpectedToken token => some ("Expected a literal, found `" ++ token ++ "`")
  | numberParseError token =>
    some ("Invalid number: `" ++ token ++ "`, is it above the integer limit?")
  | malformedBinaryLiteral _ => some "Binary literals only accept the digits 0 and 1"
  | malformedOctalLiteral _ => some "Octal literals only accept the digits 0 to 7"
  | malformedHexLiteral _ =>
    some "Hexadecimal literals only accept the digits 0 to 9 and the letters A to F"
  | malformedDecimalLiteral _ => some "Separate the number from the following name with a space"
  | invalidBaseMarker _ => some "A leading `0` must be followed by `b`, `o` or `x`"
  | multipleFloatDots => some "Only one dot is permitted in a float literal"
  | floatOnBasePrefixedLiteral => some "Binary, octal and hexadecimal numbers cannot be floats"
  | misplacedOrDuplicateSeparator true => some "Remove the repeated `_`"
  | misplacedOrDuplicateSeparator false => some "A `_` may only appear between two digits"
  | numberMustEndNumeric _ => some "A number must end with a digit"
  | charLiteralOverflow _ => some "Use double quotes for strings longer than one character"
  | emptyCharLiteral => some "A char literal must hold exactly one character"
  | unterminatedLiteral delimiter =>
    some ("Close the literal with `" ++ String.singleton delimiter ++ "`")
  | unterminatedComment => some "Close the comment with `*/`"

end Cause

/-- A cause and the place it was met at. -/
structure Error where
  /-- What went wrong. -/
  cause : Cause
  /-- Where it was met. -/
  position : Position
  deriving DecidableEq

/-- The one-line form `file:line:offset: message`. -/
def Error.display (e : Error) : String :=
  e.position.file ++ ":" ++ Text.decimal e.position.line ++ ":" ++
    Text.decimal e.position.offset ++ ": " ++ e.cause.message

end Lexeme
