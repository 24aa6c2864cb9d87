import Lexeme.Comment
import Lexeme.Keyword
import Lexeme.Number
import Lexeme.Quoted
import Lexeme.Symbol
import Lexeme.Text.Blank
import Lexeme.Text.Numeric

/-!
# Elements of a source

A source is a row of elements: blanks, comments and tokens. Which element comes first in a text
depends on that text alone, not on where it stands in the source.

## Main Definitions

* `Element` — one element with the characters it covers
* `Element.text` — those characters
* `Element.first` — the first element of a non-empty text, or why there is none

## Design Notes

Elements know nothing of positions: a position is found by passing over the texts before it. This
keeps the rules of the language apart from the counting of characters and lines, and makes each
rule a statement about a text.

The order of the tests in `Element.first` matters in two places only. A separator before a digit
starts a number, any other `_` starts nothing; and `/` starts a comment before it is an operator.
-/

namespace Lexeme

/-- One element of a source. -/
inductive Element
  /-- A white-space character. -/
  | blank (c : Char)
  /-- A comment up to the end of its line. -/
  | lineComment (text : List Char)
  /-- A comment between `/*` and `*/`. -/
  | blockComment (text : List Char)
  /-- A token and the characters it is written with. -/
  | token (reading : Reading) (text : List Char)
  /-- A character that starts no other element. -/
  | unknown (c : Char)
  deriving DecidableEq

namespace Element

/-- The characters an element covers. -/
def text : Element → List Char
  | blank c | unknown c => [c]
  | lineComment text | blockComment text => text
  | token _ text => text

/-- The kind and value of the token that an element is. -/
def reading? : Element → Option Reading
  | token reading _ => some reading
  | unknown c => some ⟨.unknown, String.ofList [c]⟩
  | blank _ | lineComment _ | blockComment _ => none

/-- A token whose value is the text it is written with. -/
def verbatim (kind : Kind) (text : List Char) : Element := token ⟨kind, String.ofList text⟩ text

/-- The literal that a scan comes to. -/
def ofScan (scan : Scan) : Except Fault Element := scan.outcome.map (token · scan.text)

/-- A word: a letter and the alphanumeric characters after it. -/
def word (c : Char) (rest : List Char) : Element :=
  let text := c :: rest.takeWhile Text.isAlphanumeric
  verbatim (Keyword.kindOf (String.ofList text)) text

/-- Whether a number starts with `c` before `rest`: a digit, or a separator before a digit. -/
def startsNumber (c : Char) (rest : List Char) : Bool :=
  c.isDigit || (c = '_' && rest.head?.any Char.isDigit)

/-- Whether a quoted literal starts with a character. -/
def startsQuoted (c : Char) : Bool :=
  c = Quoted.singleQuote || c = Quoted.doubleQuote || c = Quoted.backquote

/-- A comment between `/*` and the first `*/` after it; `rest` starts at the opening star. -/
def block (rest : List Char) : Except Fault Element :=
  match Comment.blockLength? rest.tail with
  | some n => .ok (blockComment ('/' :: rest.take (n + 3)))
  | none => .error ⟨[], .unterminatedComment⟩

/-- The first element of the text `c :: rest`. A character that starts no element is refused by a
strict reader and is an element of its own for any other. -/
def first (strict : Bool) (c : Char) (rest : List Char) : Except Fault Element :=
  if Text.isBlank c then .ok (blank c)
  else if Text.isAlphabetic c then .ok (word c rest)
  else if startsNumber c rest then ofScan (Number.scan (c :: rest))
  else if startsQuoted c then ofScan (Quoted.scan c (c :: rest))
  else if c = '/' ∧ rest.head? = some '/' then .ok (lineComment (c :: Comment.line rest))
  else if c = '/' ∧ rest.head? = some '*' then block rest
  else match Symbol.read? (c :: rest) with
    | some (text, kind) => .ok (verbatim kind text)
    | none =>
      if strict then .error ⟨[], .unrecognisedToken (String.ofList [c])⟩ else .ok (unknown c)

/-! ## What an element covers -/

@[simp] theorem text_verbatim (kind : Kind) (text : List Char) :
    (verbatim kind text).text = text := rfl

/-- A scan that refuses nothing is an element, which covers the text scanned. -/
theorem ofScan_eq_ok_iff (scan : Scan) (element : Element) :
    ofScan scan = .ok element ↔
      ∃ reading, scan.outcome = .ok reading ∧ element = token reading scan.text := by
  unfold ofScan
  cases outcome : scan.outcome with
  | error fault => simp [Except.map]
  | ok reading => simp [Except.map, eq_comm]

theorem ofScan_eq_error_iff (scan : Scan) (fault : Fault) :
    ofScan scan = .error fault ↔ scan.outcome = .error fault := by
  unfold ofScan
  cases scan.outcome <;> simp [Except.map]

/-- A block comment is its opening, what comes before the first closing mark, and that mark. -/
theorem block_of_blockLength? {tail : List Char} {n : Nat}
    (found : Comment.blockLength? tail = some n) :
    block ('*' :: tail) = .ok (.blockComment ('/' :: '*' :: (tail.take n ++ ['*', '/']))) := by
  rw [block, List.tail_cons, found, ← Comment.take_of_blockLength? found]
  rfl

/-- An element covers the front of the text it is read from. -/
theorem text_first_isPrefix {strict : Bool} {c : Char} {rest : List Char} {element : Element}
    (found : first strict c rest = .ok element) : element.text <+: c :: rest := by
  unfold first at found
  split at found
  · cases found; simp [text]
  split at found
  · cases found
    exact List.cons_prefix_cons.mpr ⟨rfl, List.takeWhile_prefix _⟩
  split at found
  · obtain ⟨reading, -, rfl⟩ := (ofScan_eq_ok_iff _ _).mp found
    exact Number.text_scan_isPrefix _
  split at found
  · obtain ⟨reading, -, rfl⟩ := (ofScan_eq_ok_iff _ _).mp found
    exact Quoted.text_scan_isPrefix _ _
  split at found
  · cases found
    exact List.cons_prefix_cons.mpr ⟨rfl, List.takeWhile_prefix _⟩
  split at found
  · next opening =>
    unfold block at found
    split at found
    · cases found
      exact List.cons_prefix_cons.mpr ⟨opening.1.symm, List.take_prefix _ _⟩
    · cases found
  split at found
  · next symbol => cases found; exact Symbol.isPrefix_of_read? symbol
  · split at found
    · cases found
    · cases found; simp [text]

/-- Every element covers at least one character, so reading elements comes to an end. -/
theorem text_first_ne_nil {strict : Bool} {c : Char} {rest : List Char} {element : Element}
    (found : first strict c rest = .ok element) : element.text ≠ [] := by
  unfold first at found
  split at found
  · cases found; simp [text]
  split at found
  · cases found; simp [word]
  split at found
  · obtain ⟨reading, ok, rfl⟩ := (ofScan_eq_ok_iff _ _).mp found
    exact Number.text_scan_ne_nil ok
  split at found
  · obtain ⟨reading, ok, rfl⟩ := (ofScan_eq_ok_iff _ _).mp found
    exact Quoted.text_scan_ne_nil ok
  split at found
  · cases found; simp [text]
  split at found
  · unfold block at found
    split at found
    · cases found; simp [text]
    · cases found
  split at found
  · next symbol =>
    cases found
    exact Symbol.ne_nil_of_mem_table (Symbol.mem_table_of_read? symbol)
  · split at found
    · cases found
    · cases found; simp [text]

end Element

end Lexeme
