import Lexeme.Error
import Lexeme.Token

/-!
# Log records

What a scan tells while it runs.

## Main Definitions

* `Log.Level` and `Log.Record` — how important a message is, and the message
* `Log.started`, `Log.finished`, `Log.failed` — the frame of every scan
* `Log.tokenFound`, `Log.unknownFound`, `Log.lineCommentSkipped`, `Log.blockCommentSkipped` — what
  is told on the way
-/

namespace Lexeme.Log

/-- How important a message is. -/
inductive Level
  /-- Every single step. -/
  | trace
  /-- The beginning and end of a scan. -/
  | debug
  /-- Something that may be a mistake in the source. -/
  | warn
  deriving DecidableEq

/-- The level's name as it is shown. -/
def Level.name : Level → String
  | trace => "TRACE"
  | debug => "DEBUG"
  | warn => "WARN"

/-- One message. -/
structure Record where
  /-- How important the message is. -/
  level : Level
  /-- The message itself. -/
  message : String
  deriving DecidableEq

/-- A scan of a file begins. -/
def started (file : String) : Record := ⟨.debug, "tokenizing " ++ file⟩

/-- A scan of a file ends with that many tokens. -/
def finished (file : String) (count : Nat) : Record :=
  ⟨.debug, "tokenized " ++ file ++ " into " ++ Text.decimal count ++ " tokens"⟩

/-- A scan of a file ends with an error. -/
def failed (file : String) (error : Error) : Record :=
  ⟨.debug, "tokenizing " ++ file ++ " failed: " ++ error.display⟩

/-- A token has been found. -/
def tokenFound (token : Token) : Record := ⟨.trace, token.display⟩

/-- A character that starts no token has been found. -/
def unknownFound (c : Char) (place : Position) : Record :=
  ⟨.warn, "unrecognised character " ++ Text.quoteChar c ++ " at " ++ place.file ++ ":" ++
    Text.decimal place.line⟩

/-- A line comment that ends before the given offset has been skipped. -/
def lineCommentSkipped (stop : Nat) : Record :=
  ⟨.trace, "skipped line comment ending at " ++ Text.decimal stop⟩

/-- A block comment that ends before the given offset has been skipped. -/
def blockCommentSkipped (stop : Nat) : Record :=
  ⟨.trace, "skipped block comment ending at " ++ Text.decimal stop⟩

end Lexeme.Log
