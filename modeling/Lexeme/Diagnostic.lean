import Lexeme.Error
import Lexeme.Line
import Lexeme.Text.Blank

/-!
# Diagnostics

An error shown with the line of source it points into:

```text
error: MultipleFloatDots (Only one dot is permitted in a float literal)
-> main.src
   |
20 | var a = 3.1.4;
   | -----------^
```

## Main Definitions

* `Diagnostic.rows` — the rows of a diagnostic
* `Diagnostic.render` — the rows, each closed by a line end

## Design Notes

The source line is shown without the spaces and tabs it starts with, so the caret moves left by as
many places. The line number shown is the one the error carries; if the source has no place at the
error's offset, the message stands in for the line.
-/

namespace Lexeme.Diagnostic

/-- The first row: the error's name and its tip. -/
def headline (cause : Cause) : List Char :=
  match cause.tip? with
  | none => "error: ".toList ++ cause.name.toList
  | some tip =>
    "error: ".toList ++ cause.name.toList ++ " (".toList ++ tip.toList ++ ")".toList

/-- Whether a character is indentation. -/
def isIndent (c : Char) : Bool := c = ' ' || c = '\t'

/-- A text without the blanks at its end. -/
def trimEnd (text : List Char) : List Char := (text.reverse.dropWhile Text.isBlank).reverse

/-- The bar left of the source line, in the column after a line number and a space. -/
def bar (number : List Char) : List Char := List.replicate (number.length + 1) ' ' ++ ['|']

/-- The three rows that show a line of source and a place in it. -/
def picture (number : List Char) (line : Line) : List (List Char) :=
  let indent := (line.text.takeWhile isIndent).length
  [bar number,
   number ++ " | ".toList ++ trimEnd (line.text.drop indent),
   bar number ++ [' '] ++ List.replicate (line.column - indent) '-' ++ ['^']]

/-- The rows of a diagnostic. -/
def rows (error : Error) (source : List Char) : List (List Char) :=
  [headline error.cause, "-> ".toList ++ error.position.file.toList] ++
    match Line.at? source error.position.offset with
    | some line => picture (Text.decimalDigits error.position.line) line
    | none => ["   ".toList ++ error.cause.message.toList]

/-- An error shown against its source, each row closed by a line end. -/
def render (error : Error) (source : String) : String :=
  String.ofList ((rows error source.toList).flatMap (· ++ ['\n']))

end Lexeme.Diagnostic
