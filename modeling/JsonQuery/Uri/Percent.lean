/-
# JsonQuery.Uri.Percent — escaping in addresses.

Every part of an address has a set of ASCII characters that are written as `%` and two digits; all
other ASCII characters stand for themselves, and characters past ASCII are escaped byte by byte.
-/
import JsonQuery.Text.Encoding

namespace JsonQuery.Uri

/-- A byte as `%` and two upper-case digits. -/
def percentByte (b : Nat) : List Char :=
  ['%', Text.upperHexDigit (b / 16), Text.upperHexDigit (b % 16)]

/-- One character, escaped if it is in a set or past ASCII. -/
def percentChar (escaped : Char → Bool) (c : Char) : List Char :=
  if c.toNat < 0x80 && !escaped c then [c] else (Text.utf8Bytes c).flatMap percentByte

/-- A text with the characters of a set escaped. -/
def percentEncode (escaped : Char → Bool) (text : List Char) : List Char :=
  text.flatMap (percentChar escaped)

/-! ## Which characters are escaped -/

/-- The control characters. -/
def isControl (c : Char) : Bool := c.toNat < 0x20 || c.toNat = 0x7F

/-- What is escaped in a fragment. -/
def inFragmentSet (c : Char) : Bool := isControl c || [' ', '"', '<', '>', '\x60'].contains c

/-- What is escaped in a path. -/
def inPathSet (c : Char) : Bool := inFragmentSet c || ['#', '?', '{', '}'].contains c

/-- What is escaped in a user name or a password. -/
def inUserSet (c : Char) : Bool :=
  inPathSet c || ['/', ':', ';', '=', '@', '[', '\\', ']', '^', '|'].contains c

/-- What is escaped in a query. -/
def inQuerySet (c : Char) : Bool := isControl c || [' ', '"', '#', '<', '>'].contains c

/-- What is escaped in a query of the common schemes. -/
def inSpecialQuerySet (c : Char) : Bool := inQuerySet c || c = '\''

/-! ## Reading escapes -/

/-- The bytes of a text; `%` counts as itself unless two digits follow. -/
def percentBytes : List Char → List Nat
  | '%' :: a :: b :: rest =>
    match Text.hexDigit? a, Text.hexDigit? b with
    | some x, some y => (16 * x + y) :: percentBytes rest
    | _, _ => 0x25 :: percentBytes (a :: b :: rest)
  | c :: rest => Text.utf8Bytes c ++ percentBytes rest
  | [] => []

/-- The text without its escapes, if the bytes are text. -/
def percentDecode? (text : List Char) : Option (List Char) := Text.ofUtf8? (percentBytes text)

end JsonQuery.Uri
