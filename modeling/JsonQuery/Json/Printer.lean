/-
# JsonQuery.Json.Printer — the text of a document.

Compact text has no blanks; indented text puts every item and member on a line of its own, two
blanks further in, and keeps empty containers closed.  A string escapes the quote, the backslash
and the control characters below U+0020, and writes every other character as it is.
-/
import JsonQuery.Json.Basic
import JsonQuery.Binary64.Shortest
import JsonQuery.Text.Basic

namespace JsonQuery.Json

/-- One character of a string. -/
def escapeChar (c : Char) : List Char :=
  if c = '"' then ['\\', '"']
  else if c = '\\' then ['\\', '\\']
  else if c = '\n' then ['\\', 'n']
  else if c = '\r' then ['\\', 'r']
  else if c = '\t' then ['\\', 't']
  else if c.toNat = 8 then ['\\', 'b']
  else if c.toNat = 12 then ['\\', 'f']
  else if c.toNat < 0x20 then
    ['\\', 'u', '0', '0', Text.lowerHexDigit (c.toNat / 16), Text.lowerHexDigit (c.toNat % 16)]
  else [c]

/-- The text of a string, with its quotes. -/
def quote (s : String) : String :=
  String.ofList ('"' :: s.toList.flatMap escapeChar ++ ['"'])

/-- The text of a number. -/
def Numeral.toText : Numeral → String
  | .integer n => toString n
  | .float x => x.toText

mutual

/-- The compact text. -/
def compact : Json → String
  | .null => "null"
  | .bool b => if b then "true" else "false"
  | .number n => n.toText
  | .string s => quote s
  | .array items => "[" ++ compactItems items ++ "]"
  | .object members => "\x7b" ++ compactMembers members ++ "\x7d"

/-- Items with commas between them. -/
def compactItems : List Json → String
  | [] => ""
  | [item] => item.compact
  | item :: rest => item.compact ++ "," ++ compactItems rest

/-- Members with commas between them. -/
def compactMembers : List (String × Json) → String
  | [] => ""
  | [(name, value)] => quote name ++ ":" ++ value.compact
  | (name, value) :: rest => quote name ++ ":" ++ value.compact ++ "," ++ compactMembers rest

end

/-- A line feed and the blanks of a level. -/
def newLine (level : Nat) : String :=
  String.ofList ('\n' :: List.replicate (2 * level) ' ')

mutual

/-- The indented text, at a level. -/
def indented (level : Nat) : Json → String
  | .array [] => "[]"
  | .object [] => "\x7b\x7d"
  | .array items => "[" ++ indentedItems (level + 1) items ++ newLine level ++ "]"
  | .object members => "\x7b" ++ indentedMembers (level + 1) members ++ newLine level ++ "\x7d"
  | .null => "null"
  | .bool b => if b then "true" else "false"
  | .number n => n.toText
  | .string s => quote s

/-- Items, each on its line. -/
def indentedItems (level : Nat) : List Json → String
  | [] => ""
  | [item] => newLine level ++ item.indented level
  | item :: rest => newLine level ++ item.indented level ++ "," ++ indentedItems level rest

/-- Members, each on its line. -/
def indentedMembers (level : Nat) : List (String × Json) → String
  | [] => ""
  | [(name, value)] => newLine level ++ quote name ++ ": " ++ value.indented level
  | (name, value) :: rest =>
    newLine level ++ quote name ++ ": " ++ value.indented level ++ "," ++ indentedMembers level rest

end

/-- The text of a document, indented if asked for. -/
def render (pretty : Bool) (json : Json) : String :=
  if pretty then json.indented 0 else json.compact

end JsonQuery.Json
