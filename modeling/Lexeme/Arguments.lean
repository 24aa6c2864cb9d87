import Lexeme.CommandLine

/-!
# Arguments

A reader of arguments for the command, as a part of its outer layer: it stands where the command has
a parser that is not its own. Nothing is said about it, and nothing that is said of the command
depends on it.

## Main Definitions

* `Arguments.Flag` — the flags, with their long and short names
* `Arguments.read` — the request that arguments make, or the answer to them

## Design Notes

Arguments are read from left to right and the first one that settles the answer wins: a flag given
twice, an argument that means nothing and a second file are wrong uses, while `--help` and
`--version` are answered as soon as they are met. That no file was given is known only at the end.
-/

namespace Lexeme.Arguments

open CommandLine

/-- A flag of the command. -/
inductive Flag
  /-- Refuse characters that start no token. -/
  | strict
  /-- Print the number of tokens only. -/
  | check
  /-- Ask for more to be told on the way; the answer is the same without it. -/
  | verbose
  /-- Print a description of the command. -/
  | help
  /-- Print the version of the command. -/
  | version
  deriving DecidableEq

/-- The flag with a long name. -/
def Flag.ofLong? (name : String) : Option Flag :=
  if name = "--strict" then some .strict
  else if name = "--check" then some .check
  else if name = "--verbose" then some .verbose
  else if name = "--help" then some .help
  else if name = "--version" then some .version
  else none

/-- The flag with a short name. -/
def Flag.ofShort? (name : Char) : Option Flag :=
  if name = 'v' then some .verbose
  else if name = 'h' then some .help
  else if name = 'V' then some .version
  else none

/-- A text that is shown instead of the tokens of a file. -/
def shown (text : String) : Answer := ⟨0, text, "", []⟩

/-- The version of the command. -/
def version : Answer := shown "tokenizer 0.1.0\n"

/-- A description of the command. -/
def help : Answer :=
  shown (unlines [
    "Tokenizes a source file and prints its tokens",
    "",
    "Usage: tokenizer [--strict] [--check] [-v | --verbose] <INPUT>"])

/-- The answer to arguments that are wrong. -/
def misuse : Answer := ⟨2, "", unlines ["error: wrong arguments, try --help"], []⟩

/-- What has been asked for so far. -/
structure Options where
  /-- The flags given. -/
  flags : List Flag := []
  /-- The file given. -/
  input? : Option String := none

/-- Takes up a flag. -/
def Options.raise (options : Options) (flag : Flag) : Except Answer Options :=
  match flag with
  | .help => .error help
  | .version => .error version
  | _ =>
    if flag ∈ options.flags then .error misuse
    else .ok { options with flags := flag :: options.flags }

/-- Takes up a flag if there is one. -/
def Options.raise? (options : Options) (flag? : Option Flag) : Except Answer Options :=
  match flag? with
  | some flag => options.raise flag
  | none => .error misuse

/-- Takes up a file. -/
def Options.place (options : Options) (path : String) : Except Answer Options :=
  if path.isEmpty || options.input?.isSome then .error misuse
  else .ok { options with input? := some path }

/-- Takes up an argument: a long flag, short flags after one dash, or a file. -/
def Options.take (options : Options) (argument : String) : Except Answer Options :=
  match argument.toList with
  | '-' :: '-' :: _ => options.raise? (Flag.ofLong? argument)
  | '-' :: name :: names =>
    (name :: names).foldlM (fun options name => options.raise? (Flag.ofShort? name)) options
  | _ => options.place argument

/-- Takes up arguments. After `--` all of them are files. -/
def Options.takeAll (options : Options) : List String → Except Answer Options
  | [] => .ok options
  | argument :: rest =>
    if argument = "--" then rest.foldlM Options.place options
    else (options.take argument).bind (takeAll · rest)

/-- The request that a list of arguments makes, or the answer to it. -/
def read (arguments : List String) : Except Answer Request := do
  let options ← Options.takeAll {} arguments
  match options.input? with
  | none => .error misuse
  | some input => .ok ⟨input, .strict ∈ options.flags, .check ∈ options.flags⟩

end Lexeme.Arguments
