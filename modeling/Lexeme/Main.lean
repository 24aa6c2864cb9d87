import Lexeme.Arguments

/-!
# The program

Reads the arguments and the file, and prints the answer of `Lexeme.CommandLine.run` with the
warnings of the scan.
-/

namespace Lexeme

/-- Reads a file, sorting the system's reasons for not being able to. -/
def readFile (path : String) : IO (Except ReadFailure ByteArray) := do
  try
    return .ok (← IO.FS.readBinFile path)
  catch error =>
    return .error <| match error with
      | .noFileOrDirectory .. => .notFound
      | .inappropriateType _ code _ => if code = 21 then .isDirectory else .notDirectory
      | .permissionDenied .. => .other "Permission denied (os error 13)"
      | error => .other (toString error)

end Lexeme

/-- Answers a list of arguments. -/
def main (arguments : List String) : IO UInt32 := do
  let request := Lexeme.Arguments.read arguments
  let content ← match request with
    | .ok request => Lexeme.readFile request.input
    | .error _ => pure (.error .notFound)
  let answer := Lexeme.CommandLine.run (fun _ => request) (fun _ => content) arguments
  for record in answer.log do
    if record.level = .warn then IO.eprintln record.message
  IO.print answer.output
  IO.eprint answer.errors
  return answer.code.toUInt32
