import Lexeme.Cursor
import Lexeme.Error
import Lexeme.Token

/-!
# Scanning one literal

A literal is scanned from the front of a text, without knowing where that text stands. What comes
out is carried back to a cursor in a second step, which is the same for every kind of literal.

## Main Definitions

* `Fault` — a cause and the text between the start of the literal and the place of the fault
* `Scan` — the text passed over and either a kind with a value or a fault
* `Scan.readAt` — the token or error, and the cursor and line afterwards, when the text stands at a
  cursor
* `Scan.Accurate` — a scan that covers the front of a text and counts the line ends there

## Design Notes

A scan that fails still passes over text: the characters it has looked at before it gave up. The
place of the fault is part of the fault, because some literals are refused where the scan stopped
and others where they started.

The line ends of the content are counted by the scan itself: a delimiter starts no line, whatever
character it is. `Scan.readAt` takes the line from that count and from nowhere else, and has every
literal refused on the line that it starts on. That these are the lines of the text has to be proved
of each kind of literal (`Number.accurate_scan`, `Quoted.accurate_scan`).
-/

namespace Lexeme

/-- Why and where an element of a source is refused. -/
structure Fault where
  /-- The text between the start of the element and the place of the fault. -/
  ahead : List Char
  /-- What went wrong there. -/
  cause : Cause
  deriving DecidableEq

/-- The error that a fault is when its element stands at `start`. -/
def Fault.errorAt (fault : Fault) (start : Position) : Error :=
  ⟨fault.cause, start.past fault.ahead⟩

@[simp] theorem Fault.errorAt_cause (fault : Fault) (start : Position) :
    (fault.errorAt start).cause = fault.cause := rfl

@[simp] theorem Fault.errorAt_position (fault : Fault) (start : Position) :
    (fault.errorAt start).position = start.past fault.ahead := rfl

/-- A kind and a value: what a token is apart from its place. -/
structure Reading where
  /-- The kind of the token. -/
  kind : Kind
  /-- The value of the token. -/
  value : String
  deriving DecidableEq

/-- What scanning a literal from the front of a text comes to. -/
structure Scan where
  /-- The text passed over. -/
  text : List Char
  /-- How many line ends were passed as part of the literal's content. -/
  lines : Nat
  /-- What the literal is, or why it is refused. -/
  outcome : Except Fault Reading

/-- What reading a literal at a cursor comes to. -/
structure Scan.Result where
  /-- The token read, or the error met. -/
  token : Except Error Token
  /-- Where the cursor stands afterwards. -/
  cursor : Cursor
  /-- The line the cursor is on afterwards. -/
  line : Nat

/-- Carries a scan of the text at a cursor back to that cursor. The line is the one that the scan
has counted, and a literal is refused on the line it starts on. -/
def Scan.readAt (scan : Scan) (cursor : Cursor) (line : Nat) : Scan.Result where
  token :=
    match scan.outcome with
    | .ok reading =>
      .ok ⟨reading.kind, reading.value,
        cursor.here line, (cursor.skip scan.text.length).here (line + scan.lines)⟩
    | .error fault => .error ⟨fault.cause, (cursor.skip fault.ahead.length).here line⟩
  cursor := cursor.skip scan.text.length
  line := line + scan.lines

/-- A scan of the front of `source` that has counted the line ends it passed over. -/
structure Scan.Accurate (scan : Scan) (source : List Char) : Prop where
  /-- The text passed over is where the source starts. -/
  text_isPrefix : scan.text <+: source
  /-- All the line ends passed have been counted. -/
  lines_eq : scan.lines = scan.text.count '\n'
  /-- The place of a fault is on the first line of the source. -/
  ahead_of_error : ∀ fault, scan.outcome = .error fault →
    fault.ahead <+: source ∧ '\n' ∉ fault.ahead

end Lexeme
