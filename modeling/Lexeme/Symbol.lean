import Lexeme.Token

/-!
# Symbols

The operators and marks of structure that are written with neither letters nor digits.

## Main Definitions

* `Symbol.table` — every symbol with its kind, longer ones before their beginnings
* `Symbol.read?` — the first symbol of the table that a text starts with

## Design Notes

A symbol that begins another one comes after it in the table, so the first one found is the longest
one there is.
-/

namespace Lexeme.Symbol

/-- Every symbol with its kind, longer ones before their beginnings. -/
def table : List (List Char × Kind) :=
  [(['-', '>'], .token), (['-'], .operator),
   ([':', ':'], .operator), ([':'], .token),
   (['.', '.', '.'], .token), (['.', '.'], .token), (['.'], .token),
   (['('], .token), ([')'], .token), (['\x7b'], .token), (['\x7d'], .token), (['['], .token),
   ([']'], .token), ([','], .token), (['&'], .token), (['='], .token), (['~'], .token),
   ([';'], .token), (['!'], .token), (['?'], .token),
   (['>'], .operator), (['<'], .operator), (['+'], .operator), (['*'], .operator),
   (['/'], .operator)]

/-- The longest symbol that a text starts with. -/
def read? (source : List Char) : Option (List Char × Kind) :=
  table.find? fun entry => entry.1.isPrefixOf source

/-- A symbol that is read is one of the table. -/
theorem mem_table_of_read? {source text : List Char} {kind : Kind}
    (found : read? source = some (text, kind)) : (text, kind) ∈ table := by
  unfold read? at found
  exact List.mem_of_find?_eq_some found

/-- A symbol that is read stands at the front of the text. -/
theorem isPrefix_of_read? {source text : List Char} {kind : Kind}
    (found : read? source = some (text, kind)) : text <+: source := by
  unfold read? at found
  have starts := List.find?_some found
  exact List.isPrefixOf_iff_prefix.mp starts

/-- Every symbol has at least one character. -/
theorem ne_nil_of_mem_table {text : List Char} {kind : Kind} (mem : (text, kind) ∈ table) :
    text ≠ [] := by
  rintro rfl
  revert mem
  cases kind <;> decide

/-- No symbol goes over a line end. -/
theorem newline_notMem_of_mem_table {text : List Char} {kind : Kind} (mem : (text, kind) ∈ table) :
    '\n' ∉ text := by
  have inside : table.all (fun entry => '\n' ∉ entry.1) = true := by decide
  exact of_decide_eq_true (List.all_eq_true.mp inside _ mem)

end Lexeme.Symbol
