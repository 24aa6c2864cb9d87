import Lexeme.Scan

/-!
# Number literals

A number is written in base ten, with or without a point, or in base two, eight or sixteen after
the prefix `0b`, `0o` or `0x`. Its digits may be separated by single `_`.

## Main Definitions

* `Number.Form` — the five ways to write a number
* `Number.body` — scans digits, separators and points up to the end of the number
* `Number.scan` — scans a number from the front of a text

## Design Notes

The scan looks one character ahead and remembers one character back, and that is all it needs: a
separator must have a decimal digit on both sides, two points end the number before them, and the
last character of a number must be a digit of its form. Separators are judged by decimal digits in
every base, so `0xA_1` is refused although `A` is a digit of its form.

A fault of a number stands where the scan stopped: `Number.scan` never looks further than one
character past it.
-/

namespace Lexeme.Number

/-- A way to write a number. -/
inductive Form
  /-- Decimal digits. -/
  | decimal
  /-- Decimal digits around a point. -/
  | float
  /-- Binary digits after `0b`. -/
  | binary
  /-- Octal digits after `0o`. -/
  | octal
  /-- Hexadecimal digits after `0x`. -/
  | hexadecimal
  deriving DecidableEq

/-- Whether a character is a digit of base sixteen, in either case. -/
def isHexDigit (c : Char) : Bool :=
  c.isDigit || (decide ('a' ≤ c) && decide (c ≤ 'f')) || (decide ('A' ≤ c) && decide (c ≤ 'F'))

namespace Form

/-- The form that a letter after a leading zero announces. -/
def ofMarker? (marker : Char) : Option Form :=
  if marker = 'b' ∨ marker = 'B' then some .binary
  else if marker = 'o' ∨ marker = 'O' then some .octal
  else if marker = 'x' ∨ marker = 'X' then some .hexadecimal
  else none

/-- Whether a character is a digit of the form. -/
def accepts : Form → Char → Bool
  | decimal, c | float, c => c.isDigit
  | binary, c => c = '0' || c = '1'
  | octal, c => decide ('0' ≤ c) && decide (c ≤ '7')
  | hexadecimal, c => isHexDigit c

/-- The cause that refuses a letter or digit which is no digit of the form. -/
def malformed : Form → Char → Cause
  | decimal, c | float, c => .malformedDecimalLiteral c
  | binary, c => .malformedBinaryLiteral c
  | octal, c => .malformedOctalLiteral c
  | hexadecimal, c => .malformedHexLiteral c

/-- The kind of the tokens of the form. -/
def kind : Form → Kind
  | decimal => .numericLiteral
  | float => .floatLiteral
  | binary => .binaryLiteral
  | octal => .octalLiteral
  | hexadecimal => .hexaLiteral

/-- How many characters stand before the digits: a leading zero and a letter, or nothing. -/
def markLength : Form → Nat
  | decimal | float => 0
  | binary | octal | hexadecimal => 2

end Form

/-- What scanning the body of a number comes to. -/
structure Body where
  /-- The text passed over. -/
  text : List Char
  /-- The form of the number, or why it is refused where the scan stopped. -/
  outcome : Except Cause Form

/-- The same body with one more character before it. -/
def Body.push (c : Char) (body : Body) : Body := { body with text := c :: body.text }

@[simp] theorem Body.text_push (c : Char) (body : Body) : (body.push c).text = c :: body.text := rfl

@[simp] theorem Body.outcome_push (c : Char) (body : Body) :
    (body.push c).outcome = body.outcome := rfl

/-- Ends a number after the character `last`, which must be a digit of its form. -/
def close (form : Form) : Option Char → Except Cause Form
  | none => .error (.misplacedOrDuplicateSeparator false)
  | some last => if form.accepts last then .ok form else .error (.numberMustEndNumeric last)

/-- Scans a number of which `form` is known so far and `last` is the character just passed. -/
def body (form : Form) (last : Option Char) : List Char → Body
  | [] => ⟨[], close form last⟩
  | c :: rest =>
    if c = '_' then
      if rest.head? = some '_' then ⟨[], .error (.misplacedOrDuplicateSeparator true)⟩
      else if last.any Char.isDigit && rest.head?.any Char.isDigit then
        (body form (some c) rest).push c
      else ⟨[], .error (.misplacedOrDuplicateSeparator false)⟩
    else if c = '.' then
      if rest.head? = some '.' then ⟨[], close form last⟩
      else match form with
        | .decimal => (body .float (some c) rest).push c
        | .float => ⟨[], .error .multipleFloatDots⟩
        | _ => ⟨[], .error .floatOnBasePrefixedLiteral⟩
    else if c.isAlphanum then
      if form.accepts c then (body form (some c) rest).push c
      else ⟨[], .error (form.malformed c)⟩
    else ⟨[], close form last⟩

/-- The value of a number: its text without the base prefix and the separators. -/
def value (form : Form) (text : List Char) : String :=
  String.ofList ((text.drop form.markLength).filter (· ≠ '_'))

/-- A body that comes after `mark`, as the scan of a whole number. -/
def Body.toScan (body : Body) (mark : List Char) : Scan where
  text := mark ++ body.text
  lines := 0
  outcome :=
    match body.outcome with
    | .ok form => .ok ⟨form.kind, value form (mark ++ body.text)⟩
    | .error cause => .error ⟨mark ++ body.text, cause⟩

/-- Scans a number from the front of a text. After a leading zero only a letter that marks a base,
a point or the end of the number may stand. -/
def scan (source : List Char) : Scan :=
  match source with
  | zero :: marker :: rest =>
    if zero = '0' then
      match Form.ofMarker? marker with
      | some form => (body form (some marker) rest).toScan [zero, marker]
      | none =>
        if marker.isAlphanum || marker = '_' then
          ⟨[zero], 0, .error ⟨[zero], .invalidBaseMarker marker⟩⟩
        else (body .decimal none source).toScan []
    else (body .decimal none source).toScan []
  | _ => (body .decimal none source).toScan []

/-- Reads a number at a cursor. -/
def read (cursor : Cursor) (line : Nat) : Scan.Result := (scan cursor.rest).readAt cursor line

/-! ## What a scan passes over -/

/-- A body covers the front of the text it was scanned from. -/
theorem text_body_isPrefix (form : Form) (last : Option Char) (source : List Char) :
    (body form last source).text <+: source := by
  induction source generalizing form last with
  | nil => exact List.nil_prefix
  | cons c rest ih =>
    unfold body
    repeat' split
    all_goals first
      | exact List.nil_prefix
      | exact List.cons_prefix_cons.mpr ⟨rfl, ih _ _⟩

/-- A number that is not refused has at least one character. -/
theorem text_body_ne_nil {form form' : Form} {source : List Char}
    (ok : (body form none source).outcome = .ok form') : (body form none source).text ≠ [] := by
  revert ok
  cases source with
  | nil => simp [body, close]
  | cons c rest =>
    unfold body
    repeat' split
    all_goals simp [close]

/-- A body has no line ends. -/
theorem newline_notMem_text_body (form : Form) (last : Option Char) (source : List Char) :
    '\n' ∉ (body form last source).text := by
  induction source generalizing form last with
  | nil => simp [body]
  | cons c rest ih =>
    unfold body
    repeat' split
    all_goals simp_all
    all_goals
      rintro rfl
      simp_all

@[simp] theorem lines_scan (source : List Char) : (scan source).lines = 0 := by
  unfold scan
  repeat' split
  all_goals rfl

/-- A number has no line ends. -/
theorem newline_notMem_text_scan (source : List Char) : '\n' ∉ (scan source).text := by
  have bare : '\n' ∉ ((body .decimal none source).toScan []).text :=
    newline_notMem_text_body .decimal none source
  unfold scan
  split
  · next zero marker rest =>
    split
    · next isZero =>
      subst isZero
      split
      · next form known =>
        have letter : '\n' ≠ marker := by
          rintro rfl
          cases known
        simpa [Body.toScan, letter] using newline_notMem_text_body form (some marker) rest
      · split
        · simp
        · exact bare
    · exact bare
  · exact bare

/-- A scan covers the front of the text it was started on. -/
theorem text_scan_isPrefix (source : List Char) : (scan source).text <+: source := by
  unfold scan
  repeat' split
  · exact List.cons_prefix_cons.mpr ⟨rfl, List.cons_prefix_cons.mpr ⟨rfl, text_body_isPrefix ..⟩⟩
  · exact List.cons_prefix_cons.mpr ⟨rfl, List.nil_prefix⟩
  all_goals exact text_body_isPrefix ..

/-- A body that is refused is refused where it stopped. -/
theorem fault_of_toScan {body : Body} {mark : List Char} {fault : Fault}
    (refused : (body.toScan mark).outcome = .error fault) :
    body.outcome = .error fault.cause ∧ fault.ahead = (body.toScan mark).text := by
  unfold Body.toScan at refused ⊢
  cases outcome : body.outcome with
  | ok form => simp [outcome] at refused
  | error cause =>
    simp only [outcome] at refused
    cases refused
    exact ⟨rfl, rfl⟩

/-- A number is refused where its scan stopped. -/
theorem ahead_scan {source : List Char} {fault : Fault}
    (refused : (scan source).outcome = .error fault) : fault.ahead = (scan source).text := by
  have ahead_toScan {body : Body} {mark : List Char}
      (refused : (body.toScan mark).outcome = .error fault) :
      fault.ahead = (body.toScan mark).text := (fault_of_toScan refused).2
  revert refused
  unfold scan
  repeat' split
  · exact ahead_toScan
  · rintro ⟨⟩
    rfl
  all_goals exact ahead_toScan

/-- A number is scanned on one line. -/
theorem accurate_scan (source : List Char) : (scan source).Accurate source where
  text_isPrefix := text_scan_isPrefix source
  lines_eq := by rw [lines_scan, List.count_eq_zero.mpr (newline_notMem_text_scan source)]
  ahead_of_error fault refused := by
    rw [ahead_scan refused]
    exact ⟨text_scan_isPrefix source, newline_notMem_text_scan source⟩

/-- A number that is read has at least one character. -/
theorem text_scan_ne_nil {source : List Char} {reading : Reading}
    (ok : (scan source).outcome = .ok reading) : (scan source).text ≠ [] := by
  have bare {source : List Char}
      (ok : ((body .decimal none source).toScan []).outcome = .ok reading) :
      ((body .decimal none source).toScan []).text ≠ [] := by
    unfold Body.toScan at ok ⊢
    cases found : (body .decimal none source).outcome with
    | error cause => simp [found] at ok
    | ok form => simpa using text_body_ne_nil found
  revert ok
  unfold scan
  repeat' split
  · simp [Body.toScan]
  · simp
  all_goals exact bare

end Lexeme.Number
