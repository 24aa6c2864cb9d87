import Lexeme.Text.Ranges
import Lexeme.Text.Blank
import Lexeme.Text.Alphabetic
import Lexeme.Text.Numeric
import Lexeme.Text.GraphemeExtend
import Lexeme.Text.Ignorable
import Lexeme.Text.Printable
import Lexeme.Text.Digits
import Lexeme.Text.Escape
import Lexeme.Position
import Lexeme.Cursor
import Lexeme.Token
import Lexeme.Keyword
import Lexeme.Error
import Lexeme.Scan
import Lexeme.Number
import Lexeme.Quoted
import Lexeme.Comment
import Lexeme.Symbol
import Lexeme.Element
import Lexeme.Log
import Lexeme.Lexer
import Lexeme.Line
import Lexeme.Diagnostic
import Lexeme.Numeral
import Lexeme.Binary64
import Lexeme.Literal
import Lexeme.TokenStream
import Lexeme.FileTree
import Lexeme.CommandLine
import Lexeme.Arguments
import Lexeme.Main
import Lexeme.Proofs.NumberGrammar
import Lexeme.Proofs.Row
import Lexeme.Proofs.Spelling
import Lexeme.Proofs.Boundaries
import Lexeme.Proofs.Concatenation
import Lexeme.Proofs.Strictness
import Lexeme.Proofs.Evidence
import Lexeme.Proofs.Reprint
import Lexeme.Proofs.Coverage
import Lexeme.Proofs.Lines
import Lexeme.Proofs.Positions
import Lexeme.Proofs.Numerals
import Lexeme.Proofs.Collecting
import Lexeme.Proofs.LiteralValues
import Lexeme.Proofs.Cutting
import Lexeme.Proofs.Blanking
import Lexeme.Proofs.MaximalMunch
import Lexeme.Proofs.Appending
import Lexeme.Proofs.Caret
import Lexeme.Proofs.Reuse
import Lexeme.Proofs.Display
import Lexeme.Proofs.LogRecords
import Lexeme.Proofs.WrittenIntegers
import Lexeme.Proofs.Delimiters
import Lexeme.Proofs.ViablePrefixes
import Lexeme.Proofs.Adjacency
import Lexeme.Proofs.StreamCalls
import Lexeme.Proofs.Listing
import Lexeme.Proofs.Loops
import Lexeme.Proofs.StepLoops
import Lexeme.Proofs.Progress
import Lexeme.Proofs.StepLoops
