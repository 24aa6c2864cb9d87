import Lexeme.Token

/-!
# Reserved words

Which words are not names.

## Main Definitions

* `Keyword.statements` — the words whose tokens are statements
* `Keyword.kindOf` — the kind of a word
* `Keyword.reserved` — every reserved word with the kind of its token
-/

namespace Lexeme.Keyword

/-- The words whose tokens are statements. -/
def statements : List String :=
  ["fn", "var", "const", "class", "interface", "enum", "struct", "if", "else", "for", "while",
   "do", "break", "continue", "return", "match", "import", "export", "module", "new", "this",
   "super", "null", "true", "false", "public", "private", "protected", "static", "abstract",
   "final"]

/-- The word that is an operator. -/
def wordOperator : String := "instanceof"

/-- The kind of a word: what it is reserved for, else a name. -/
def kindOf (word : String) : Kind :=
  if word = wordOperator then .operator
  else if word ∈ statements then .statement
  else .identifierName

/-- Every reserved word with the kind of its token, in the order of the words. -/
def reserved : List (String × Kind) :=
  ((wordOperator :: statements).map fun word => (word, kindOf word)).mergeSort
    fun a b => decide (a.1 ≤ b.1)

/-- A word is an operator, a statement or a name. -/
theorem kindOf_cases (word : String) :
    kindOf word = .operator ∨ kindOf word = .statement ∨ kindOf word = .identifierName := by
  unfold kindOf
  split
  · exact .inl rfl
  · split
    · exact .inr (.inl rfl)
    · exact .inr (.inr rfl)

end Lexeme.Keyword
