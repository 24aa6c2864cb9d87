import Lexeme.Diagnostic
import Lexeme.FileTree
import Lexeme.Lexer

/-!
# The command line

The command `tokenizer` scans one file and prints its tokens.

## Main Definitions

* `CommandLine.Request` — a file to scan and how to show what is found
* `CommandLine.Answer` — what the command leaves behind
* `CommandLine.answer` — the answer to a request, given the bytes of the file
* `CommandLine.run` — the answer to arguments, given a way to read arguments and one to read files

## Design Notes

How arguments are read is not the command's own work: a reader of arguments makes a request of them
or answers them itself, with a description or a complaint. So it is a parameter of
`CommandLine.run`, and what is said of the command is said of requests.

Neither is it up to the command how much of what a scan tells is shown. `Answer.errors` is what the
command writes on the standard error itself; `Answer.log` is what it hands to a logger, which may
show some of it there too, in a form of its own.
-/

namespace Lexeme.CommandLine

/-- A file to scan and how to show what is found. -/
structure Request where
  /-- The path of the file. -/
  input : String
  /-- Whether a character that starts no token is an error. -/
  strict : Bool
  /-- Whether only the number of tokens is wanted. -/
  check : Bool
  deriving DecidableEq

/-- What the command leaves behind. -/
structure Answer where
  /-- The exit code. -/
  code : Nat
  /-- The text on the standard output. -/
  output : String
  /-- The text that the command itself writes on the standard error. -/
  errors : String
  /-- What the logger is told by the scan. -/
  log : List Log.Record
  deriving DecidableEq

/-- The lines of a text, each closed by a line end. -/
def unlines (lines : List String) : String := String.join (lines.map (· ++ "\n"))

/-- The name of a file in what is shown of it: the last name of its path. -/
def fileName (path : String) : String :=
  match ((pathNames path).filter fun name => name ≠ "" && name ≠ ".").getLast? with
  | some name => if name = ".." then path else name
  | none => path

/-- The answer when a file cannot be read. -/
def unreadable (path : String) (failure : ReadFailure) : Answer where
  code := 1
  output := ""
  errors := "Error: Failed to read " ++ path ++ "\n\nCaused by:\n    " ++ failure.reason ++ "\n"
  log := []

/-- One line for each token, or one line with their number. -/
def summary (request : Request) (tokens : List Token) : String :=
  if request.check then
    fileName request.input ++ ": " ++ Text.decimal tokens.length ++ " tokens\n"
  else unlines (tokens.map Token.display)

/-- The answer when the file holds a text. -/
def scan (request : Request) (source : String) : Answer :=
  let outcome := (Lexer.new request.strict).tokenize source (fileName request.input)
  match outcome.result with
  | .ok tokens => ⟨0, summary request tokens, "", outcome.log⟩
  | .error error => ⟨1, "", Diagnostic.render error source, outcome.log⟩

/-- The answer to a request, given what reading its file comes to. -/
def answer (request : Request) (content : Except ReadFailure ByteArray) : Answer :=
  match content with
  | .error failure => unreadable request.input failure
  | .ok bytes =>
    match String.fromUTF8? bytes with
    | some source => scan request source
    | none => unreadable request.input .notText

/-- The answer to a list of arguments. Reading them comes to a request, or to an answer that is
given without looking at any file. -/
def run (readArguments : List String → Except Answer Request)
    (readFile : String → Except ReadFailure ByteArray) (arguments : List String) : Answer :=
  match readArguments arguments with
  | .ok request => answer request (readFile request.input)
  | .error answer => answer

end Lexeme.CommandLine
