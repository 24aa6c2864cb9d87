import Mathlib
import Lexeme.Proofs.NumberGrammar
import Lexeme.Proofs.Row

/-!
# How elements are written

What the characters of an element look like, for each kind of token and for the text between
tokens, said without the lexer.

## Main Definitions

* `Quoted.Encloses` — content between two delimiters that do not occur in it
* `Kind.Shape` — how a token of a kind and with a value is written
* `Skipped` — text that is no part of a token: blanks and whole comments

## Design Notes

A piece of skipped text is judged with what follows it: a line comment ends only where a line or the
source ends, so whether `// x` is a whole comment depends on the next character. That is why
`Skipped` has a second argument.
-/

namespace Lexeme

/-- `text` is `content` between two delimiters, the second one being the first that occurs. -/
def Quoted.Encloses (delimiter : Char) (content text : List Char) : Prop :=
  text = delimiter :: content ++ [delimiter] ∧ delimiter ∉ content

/-- How a token of a kind and with a value is written. -/
def Kind.Shape (kind : Kind) (value text : List Char) : Prop :=
  match kind with
  | .identifierName | .statement | .operator | .token | .unknown => text = value
  | .charLiteral => Quoted.Encloses Quoted.singleQuote value text ∧ value.length = 1
  | .stringLiteral => Quoted.Encloses Quoted.doubleQuote value text
  | .templateString => Quoted.Encloses Quoted.backquote value text
  | .numericLiteral | .floatLiteral | .binaryLiteral | .octalLiteral | .hexaLiteral =>
    ∃ mark digits, Number.Written kind mark digits ∧ text = mark ++ digits ∧
      value = digits.filter (· ≠ '_')

/-- `Skipped text after`: in front of `after`, `text` is a row of blanks and whole comments. -/
inductive Skipped : List Char → List Char → Prop
  | nil {after : List Char} : Skipped [] after
  /-- A white-space character. -/
  | blank {c : Char} {text after : List Char} (white : Text.isBlank c = true)
      (later : Skipped text after) : Skipped (c :: text) after
  /-- From `//` up to, not including, the end of the line or of the source. -/
  | lineComment {body text after : List Char} (inside : '\n' ∉ body)
      (stop : text ++ after = [] ∨ (text ++ after).head? = some '\n')
      (later : Skipped text after) : Skipped ('/' :: '/' :: body ++ text) after
  /-- From `/*` up to the first `*/` after it, which is included. -/
  | blockComment {body text after : List Char} (inside : ¬['*', '/'] <:+: body ++ ['*'])
      (later : Skipped text after) :
      Skipped ('/' :: '*' :: body ++ '*' :: '/' :: text) after

/-- Two skipped texts in a row are skipped. -/
theorem Skipped.append {text more after : List Char} (first : Skipped text (more ++ after))
    (second : Skipped more after) : Skipped (text ++ more) after := by
  generalize whole : more ++ after = rest at first
  induction first with
  | nil => exact second
  | blank white _ ih => exact .blank white (ih whole)
  | @lineComment body text _ inside stop _ ih =>
    subst whole
    have later := Skipped.lineComment inside (by rwa [List.append_assoc]) (ih rfl)
    simpa using later
  | @blockComment body text _ inside _ ih =>
    have later := Skipped.blockComment inside (ih whole)
    simpa using later

/-! ## Words, symbols and numbers -/

/-- A word is written as it is. -/
theorem Keyword.shape_kindOf (word : String) :
    (Keyword.kindOf word).Shape word.toList word.toList := by
  rcases Keyword.kindOf_cases word with kind | kind | kind <;> rw [kind] <;> exact rfl

/-- A symbol is written as it is. -/
theorem Symbol.shape_of_mem_table {text : List Char} {kind : Kind}
    (mem : (text, kind) ∈ Symbol.table) : kind.Shape text text := by
  have kinds : ∀ entry ∈ Symbol.table, entry.2 = .token ∨ entry.2 = .operator := by decide
  rcases kinds _ mem with rfl | rfl <;> exact rfl

/-- A number that is read is a written number. -/
theorem Number.shape_of_scan {source : List Char} {reading : Reading}
    (ok : (scan source).outcome = .ok reading) :
    reading.kind.Shape reading.value.toList (scan source).text := by
  obtain ⟨kind, mark, digits, after, rfl, written, ends⟩ := exists_written_of_scan ok
  rw [scan_of_written written ends] at ok ⊢
  cases ok
  have shape : ∃ mark' digits', Written kind mark' digits' ∧ mark ++ digits = mark' ++ digits' ∧
      (String.ofList (digits.filter (· ≠ '_'))).toList = digits'.filter (· ≠ '_') :=
    ⟨mark, digits, written, rfl, String.toList_ofList⟩
  cases written with
  | decimal _ => exact shape
  | float _ _ _ => exact shape
  | marked mem _ _ => cases kind <;> first | exact shape | cases mem

/-! ## Quoted literals -/

/-- What comes before the first `d` has no `d`. -/
theorem notMem_takeWhile_ne (d : Char) (text : List Char) : d ∉ text.takeWhile (· ≠ d) := by
  intro mem
  exact absurd (List.mem_takeWhile_imp mem) (by simp)

/-- A quoted literal starts with one of three quotes. -/
theorem Element.startsQuoted_iff {c : Char} : startsQuoted c = true ↔
    c = Quoted.singleQuote ∨ c = Quoted.doubleQuote ∨ c = Quoted.backquote := by
  simp [startsQuoted, or_assoc]

/-- A quoted literal that is read has content without its delimiter, and one character of it between
single quotes. -/
theorem Quoted.exists_content_of_scan {d : Char} {rest : List Char} {reading : Reading}
    (ok : (scan d (d :: rest)).outcome = .ok reading) :
    ∃ content, Encloses d content (scan d (d :: rest)).text ∧ reading.kind = kindOf d ∧
      reading.value.toList = content ∧ (kindOf d = .charLiteral → content.length = 1) := by
  unfold scan at ok ⊢
  split at ok
  · next mem =>
    rw [if_pos mem]
    refine ⟨rest.takeWhile (· ≠ d), ⟨rfl, notMem_takeWhile_ne d rest⟩, ?_⟩
    dsimp only [List.tail_cons, judge] at ok
    split at ok
    · next isChar =>
      split at ok
      · cases ok
      · next c one =>
        cases ok
        exact ⟨isChar.symm, String.toList_ofList.trans one.symm, fun _ => congrArg List.length one⟩
      · cases ok
    · next notChar =>
      cases ok
      exact ⟨rfl, String.toList_ofList, fun isChar => absurd isChar notChar⟩
  · cases ok

/-- A quoted literal that is read is written between its delimiters. -/
theorem Quoted.shape_of_scan {d : Char} {rest : List Char} {reading : Reading}
    (starts : Element.startsQuoted d = true) (ok : (scan d (d :: rest)).outcome = .ok reading) :
    reading.kind.Shape reading.value.toList (scan d (d :: rest)).text := by
  obtain ⟨content, encloses, kind, value, single⟩ := exists_content_of_scan ok
  rw [kind, value]
  rcases Element.startsQuoted_iff.mp starts with rfl | rfl | rfl
  · exact ⟨encloses, single rfl⟩
  · exact encloses
  · exact encloses

/-! ## Comments -/

/-- No `*/` comes before the first one. -/
theorem Comment.not_isInfix_of_blockLength? {text : List Char} {n : Nat}
    (found : blockLength? text = some n) : ¬['*', '/'] <:+: text.take n ++ ['*'] := by
  induction text generalizing n with
  | nil => cases found
  | cons c tail ih =>
    rw [blockLength?_cons] at found
    split at found
    · cases found
      exact fun inside => absurd inside.length_le (by simp)
    · next notHere =>
      obtain ⟨m, later, rfl⟩ := Option.map_eq_some_iff.mp found
      rw [List.take_succ_cons, List.cons_append, List.infix_cons_iff]
      rintro (here | further)
      · obtain ⟨rfl, next⟩ := List.cons_prefix_cons.mp here
        refine notHere ⟨rfl, ?_⟩
        cases tail with
        | nil => cases later
        | cons d rest =>
          cases m with
          | zero => exact absurd (List.cons_prefix_cons.mp next).1 (by decide)
          | succ m =>
            rw [List.take_succ_cons, List.cons_append, List.cons_prefix_cons] at next
            rw [List.head?_cons, ← next.1]
      · exact ih later further

/-- Where a line stops, a line end follows, or nothing. -/
theorem Comment.stop_of_line {rest after : List Char} (split : rest = line rest ++ after) :
    after = [] ∨ after.head? = some '\n' := by
  have tail : after = rest.dropWhile (· ≠ '\n') := by
    have whole : line rest ++ after = line rest ++ rest.dropWhile (· ≠ '\n') := by
      rw [← split]
      exact List.takeWhile_append_dropWhile.symm
    exact List.append_cancel_left whole
  cases following : after with
  | nil => exact .inl rfl
  | cons d _ =>
    have stop := List.head?_dropWhile_not (· ≠ '\n') rest
    rw [← tail, following] at stop
    exact .inr (congrArg some (by simpa using stop))

/-- A line comment ends before the first line end, or with the source. -/
theorem Comment.skipped_line {rest after : List Char} (next : rest.head? = some '/')
    (split : rest = line rest ++ after) : Skipped ('/' :: line rest) after := by
  have stop := stop_of_line split
  cases rest with
  | nil => cases next
  | cons c body =>
    obtain rfl : c = '/' := Option.some.inj next
    have inside := notMem_takeWhile_ne '\n' body
    have first : line ('/' :: body) = '/' :: body.takeWhile (· ≠ '\n') := rfl
    rw [first]
    simpa using Skipped.lineComment inside (by simpa using stop) Skipped.nil

/-- A block comment ends with the first `*/` after its opening. -/
theorem Comment.skipped_block {tail : List Char} {n : Nat} (found : blockLength? tail = some n)
    (after : List Char) : Skipped ('/' :: '*' :: tail.take (n + 2)) after := by
  rw [take_of_blockLength? found]
  exact .blockComment (not_isInfix_of_blockLength? found) .nil

/-! ## Elements -/

namespace Element

/-- An element with a kind is written like a token of that kind. -/
theorem shape_of_first {strict : Bool} {c : Char} {rest : List Char} {element : Element}
    {reading : Reading} (found : first strict c rest = .ok element)
    (reads : element.reading? = some reading) :
    reading.kind.Shape reading.value.toList element.text := by
  cases firstToken_of_first found reads with
  | @word text _ _ =>
    have shape := Keyword.shape_kindOf (String.ofList text)
    rwa [String.toList_ofList] at shape ⊢
  | number _ ok => exact Number.shape_of_scan ok
  | quoted starts ok => exact Quoted.shape_of_scan starts ok
  | symbol mem =>
    rw [String.toList_ofList]
    exact Symbol.shape_of_mem_table mem
  | unknown _ => exact String.toList_ofList.symm

/-- An element without a kind is skipped text. -/
theorem skipped_of_first {strict : Bool} {c : Char} {rest after : List Char} {element : Element}
    (found : first strict c rest = .ok element) (silent : element.reading? = none)
    (split : c :: rest = element.text ++ after) : Skipped element.text after := by
  have spec := first_spec strict c rest
  generalize first strict c rest = result at spec found
  cases spec with
  | blank white => cases found; exact .blank white .nil
  | word _ _ => cases found; cases silent
  | number _ =>
    obtain ⟨reading, -, rfl⟩ := (ofScan_eq_ok_iff _ _).mp found
    cases silent
  | quoted _ =>
    obtain ⟨reading, -, rfl⟩ := (ofScan_eq_ok_iff _ _).mp found
    cases silent
  | lineComment slash next =>
    cases found
    subst slash
    exact Comment.skipped_line next (List.cons.inj split).2
  | blockComment slash next =>
    cases rest with
    | nil => cases next
    | cons d tail =>
      obtain rfl : d = '*' := Option.some.inj next
      unfold block at found
      split at found
      · next length =>
        cases found
        exact Comment.skipped_block length after
      · cases found
  | symbol _ _ => cases found; cases silent
  | unknown _ _ _ _ _ =>
    split at found <;> cases found
    cases silent

end Element

end Lexeme
