/-
# JsonQuery.ParseError — why a query cannot be read.

An error has a cause and the position of the character that caused it.  Both query languages share
the causes and their wording.
-/
import JsonQuery.Text.Cursor

namespace JsonQuery

/-- The reason why a query cannot be read. -/
inductive ParseError.Cause where
  | unexpectedEndOfInput
  | syntaxError
  | expectedIdentifier
  | expectedColon
  | expectedDot
  | expectedRightBracket
  | expectedRightParen
  | expectedRightBrace
  | expectedComparator
  | invalidNumber
  | invalidLiteral
  | illegalEscapeCharacter
  | invalidCodepoint
  | stepCannotBeZero
  | unknownFunction (name : String)
  | invalidArity (name : String) (expected found : Nat)
  | unknownFlag (flag : Char)
  | rejectedPattern (reason : String)
  | nestingTooDeep
  deriving DecidableEq, Repr

/-- A cause and its place. -/
structure ParseError where
  cause : ParseError.Cause
  position : Text.Position
  deriving DecidableEq, Repr

/-- The wording of a cause. -/
def ParseError.Cause.message : ParseError.Cause → String
  | .unexpectedEndOfInput => "unexpected end of input"
  | .syntaxError => "syntax error"
  | .expectedIdentifier => "expected identifier"
  | .expectedColon => "expected ':'"
  | .expectedDot => "expected '.'"
  | .expectedRightBracket => "expected ']'"
  | .expectedRightParen => "expected ')'"
  | .expectedRightBrace => "expected '\x7d'"
  | .expectedComparator => "expected comparator"
  | .invalidNumber => "invalid number literal"
  | .invalidLiteral => "invalid JSON literal"
  | .illegalEscapeCharacter => "illegal escape character"
  | .invalidCodepoint => "invalid unicode codepoint"
  | .stepCannotBeZero => "slice step cannot be zero"
  | .unknownFunction name => "unknown function '" ++ name ++ "'"
  | .invalidArity name expected found =>
    "function '" ++ name ++ "' expects " ++ toString expected ++ " argument(s), got "
      ++ toString found
  | .unknownFlag flag => "invalid regular expression: unknown flag '" ++ String.ofList [flag] ++ "'"
  | .rejectedPattern reason => "invalid regular expression: " ++ reason
  | .nestingTooDeep => "expression nesting is too deep"

/-- The message of an error, with its place. -/
def ParseError.message (e : ParseError) : String :=
  e.cause.message ++ " at line " ++ toString e.position.line ++ ", column "
    ++ toString e.position.column

/-- The deepest nesting of groups, and the greatest height of a tree, that a query may have. -/
def maxNesting : Nat := 256

end JsonQuery
