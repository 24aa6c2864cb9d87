import Lexeme.Text.Digits
import Lexeme.Text.GraphemeExtend
import Lexeme.Text.Printable

/-!
# Quoted text in messages

How a message shows a character or a string it talks about: between quote marks, with everything
that could not be seen or told apart written as an escape.

## Main Definitions

* `escape` — one character between given quote marks
* `quoteString`, `quoteChar` — a string in double quotes, a character in single quotes

## Design Notes

The quote mark is a parameter of `escape`: a mark is escaped only between marks of its own kind, so
`"` stands as it is in a quoted character and `'` in a quoted string.
-/

namespace Lexeme.Text

/-- One character as it is written between two `mark`s. -/
def escape (mark c : Char) : List Char :=
  if c = '\x00' then ['\\', '0']
  else if c = '\t' then ['\\', 't']
  else if c = '\r' then ['\\', 'r']
  else if c = '\n' then ['\\', 'n']
  else if c = '\\' then ['\\', '\\']
  else if c = mark then ['\\', mark]
  else if isCombining c || !isPrintable c then
    ['\\', 'u', '\x7b'] ++ hexDigits c.toNat ++ ['\x7d']
  else [c]

/-- A text between two `mark`s. -/
def quote (mark : Char) (text : List Char) : List Char :=
  mark :: text.flatMap (escape mark) ++ [mark]

/-- A string in double quotes. -/
def quoteString (s : String) : String := String.ofList (quote '"' s.toList)

/-- A character in single quotes. -/
def quoteChar (c : Char) : String := String.ofList (quote '\'' [c])

@[simp] theorem quote_nil (mark : Char) : quote mark [] = [mark, mark] := rfl

end Lexeme.Text
