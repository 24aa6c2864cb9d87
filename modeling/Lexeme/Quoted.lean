import Lexeme.Scan

/-!
# Quoted literals

Text between two equal delimiters, taken as it stands: there are no escapes.

## Main Definitions

* `Quoted.kindOf` — what a delimiter delimits
* `Quoted.scan` — scans a quoted literal whose opening delimiter is the first character of a text

## Design Notes

The opening delimiter is not looked at: the caller has seen it, or means the character that is
there. A quoted literal is always refused where it starts, however far the scan went.
-/

namespace Lexeme.Quoted

/-- The mark around one character. -/
def singleQuote : Char := '\''

/-- The mark around a string. -/
def doubleQuote : Char := '"'

/-- The mark around a template. -/
def backquote : Char := '\x60'

/-- What a delimiter delimits. Any delimiter but the single quote and the backquote makes a
string. -/
def kindOf (delimiter : Char) : Kind :=
  if delimiter = singleQuote then .charLiteral
  else if delimiter = backquote then .templateString
  else .stringLiteral

/-- What stands between two delimiters, unless single quotes hold another number of characters
than one. -/
def judge (delimiter : Char) (content : List Char) : Except Fault Reading :=
  if kindOf delimiter = .charLiteral then
    match content with
    | [] => .error ⟨[], .emptyCharLiteral⟩
    | [c] => .ok ⟨.charLiteral, String.ofList [c]⟩
    | _ => .error ⟨[], .charLiteralOverflow (String.ofList content)⟩
  else .ok ⟨kindOf delimiter, String.ofList content⟩

/-- Scans a quoted literal whose opening delimiter is the first character of `source`. -/
def scan (delimiter : Char) (source : List Char) : Scan :=
  let content := source.tail.takeWhile (· ≠ delimiter)
  if delimiter ∈ source.tail then
    ⟨source.take 1 ++ content ++ [delimiter], content.count '\n', judge delimiter content⟩
  else ⟨source, content.count '\n', .error ⟨[], .unterminatedLiteral delimiter⟩⟩

/-- Reads a quoted literal at a cursor. -/
def read (cursor : Cursor) (line : Nat) (delimiter : Char) : Scan.Result :=
  (scan delimiter cursor.rest).readAt cursor line

/-! ## What a scan passes over -/

/-- A text that holds `d` is what comes before the first `d`, then `d`, then what follows. -/
theorem takeWhile_append_cons_isPrefix {d : Char} {text : List Char} (mem : d ∈ text) :
    text.takeWhile (· ≠ d) ++ [d] <+: text := by
  induction text with
  | nil => cases mem
  | cons c rest ih =>
    by_cases eq : c = d
    · subst eq
      simp
    · have later : d ∈ rest := (List.mem_cons.mp mem).resolve_left (Ne.symm eq)
      simpa [List.takeWhile_cons, eq] using ih later

/-- A text without `d` is all there is before `d`. -/
theorem takeWhile_eq_self_of_notMem {d : Char} {text : List Char} (absent : d ∉ text) :
    text.takeWhile (· ≠ d) = text := by
  induction text with
  | nil => rfl
  | cons c rest ih =>
    have ne : c ≠ d := fun eq => absent (eq ▸ List.mem_cons_self)
    have := ih fun mem => absent (List.mem_cons_of_mem c mem)
    simp_all

/-- A scan covers the front of the text it was started on. -/
theorem text_scan_isPrefix (delimiter : Char) (source : List Char) :
    (scan delimiter source).text <+: source := by
  unfold scan
  dsimp only
  split
  · next mem =>
    cases source with
    | nil => cases mem
    | cons c rest =>
      simpa using takeWhile_append_cons_isPrefix (show delimiter ∈ rest from mem)
  · exact List.prefix_rfl

/-- The lines of a literal are the line ends of its text, if it starts with its delimiter and that
is no line end. -/
theorem lines_scan {delimiter : Char} (rest : List Char) (ne : delimiter ≠ '\n') :
    (scan delimiter (delimiter :: rest)).lines =
      (scan delimiter (delimiter :: rest)).text.count '\n' := by
  unfold scan
  dsimp only
  split
  · simp [ne]
  · next absent =>
    rw [List.tail_cons] at absent ⊢
    rw [takeWhile_eq_self_of_notMem absent, List.count_cons_of_ne (Ne.symm ne).symm]

/-- A quoted literal is refused where it starts. -/
theorem ahead_scan {delimiter : Char} {source : List Char} {fault : Fault}
    (refused : (scan delimiter source).outcome = .error fault) : fault.ahead = [] := by
  unfold scan at refused
  split at refused
  · dsimp only [judge] at refused
    repeat' split at refused
    all_goals cases refused
    all_goals rfl
  · cases refused
    rfl

/-- A literal that starts with its delimiter is scanned with all its line ends counted. -/
theorem accurate_scan {delimiter : Char} (rest : List Char) (ne : delimiter ≠ '\n') :
    (scan delimiter (delimiter :: rest)).Accurate (delimiter :: rest) where
  text_isPrefix := text_scan_isPrefix delimiter _
  lines_eq := lines_scan rest ne
  ahead_of_error fault refused := by
    rw [ahead_scan refused]
    exact ⟨List.nil_prefix, List.not_mem_nil⟩

/-- A literal that is read has at least its closing delimiter. -/
theorem text_scan_ne_nil {delimiter : Char} {source : List Char} {reading : Reading}
    (ok : (scan delimiter source).outcome = .ok reading) : (scan delimiter source).text ≠ [] := by
  revert ok
  unfold scan
  dsimp only
  split <;> simp

end Lexeme.Quoted
