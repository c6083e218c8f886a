/-
# JsonQuery.Text.Cursor — a place in a text that is being read.

Both query languages are read one character at a time.  A cursor holds what is left of the text, how
many characters have been read, and the line and column that an error at this place reports.  Lines
and columns count from one; only a line feed starts a new line, and columns count characters.
-/
import JsonQuery.Text.Basic

namespace JsonQuery.Text

/-- A line and a column, both counted from one. -/
structure Position where
  line : Nat := 1
  column : Nat := 1
  deriving DecidableEq, Repr

namespace Position

/-- The position after one more character. -/
def advance (p : Position) (c : Char) : Position :=
  if c = '\n' then ⟨p.line + 1, 1⟩ else ⟨p.line, p.column + 1⟩

/-- The position after the characters of a text. -/
def after (read : List Char) : Position :=
  read.foldl advance {}

end Position

/-- A place in a text: the characters from here on, and where here is. -/
structure Cursor where
  rest : List Char
  offset : Nat := 0
  position : Position := {}
  deriving DecidableEq, Repr

namespace Cursor

/-- The start of a text. -/
def start (text : String) : Cursor := ⟨text.toList, 0, {}⟩

/-- The character at the cursor. -/
def current (c : Cursor) : Option Char := c.rest.head?

/-- The character `n` places after the cursor. -/
def peek (c : Cursor) (n : Nat) : Option Char := c.rest[n]?

/-- The first character after the current one that is not blank. -/
def peekSignificant (c : Cursor) : Option Char :=
  (c.rest.drop 1).find? (fun ch => !isBlank ch)

/-- Steps over one character; at the end of the text nothing happens. -/
def advance (c : Cursor) : Cursor :=
  match c.rest with
  | [] => c
  | ch :: rest => ⟨rest, c.offset + 1, c.position.advance ch⟩

/-- Steps over `n` characters. -/
def advanceBy (c : Cursor) : Nat → Cursor
  | 0 => c
  | n + 1 => c.advance.advanceBy n

/-- Reads the longest run of characters that pass a test. -/
def readWhile (c : Cursor) (accept : Char → Bool) : List Char × Cursor :=
  let run := c.rest.takeWhile accept
  (run, c.advanceBy run.length)

/-- Steps over blanks. -/
def skipBlanks (c : Cursor) : Cursor := (c.readWhile isBlank).2

/-- Whether the whole text has been read. -/
def atEnd (c : Cursor) : Bool := c.rest.isEmpty

end Cursor

/-- A character that may start an identifier: an ASCII letter or an underscore. -/
def isIdentifierStart (c : Char) : Bool :=
  ('a' ≤ c && c ≤ 'z') || ('A' ≤ c && c ≤ 'Z') || c == '_'

/-- A character that may follow in an identifier: an ASCII letter, digit or underscore. -/
def isIdentifierPart (c : Char) : Bool :=
  isIdentifierStart c || ('0' ≤ c && c ≤ '9')

end JsonQuery.Text
