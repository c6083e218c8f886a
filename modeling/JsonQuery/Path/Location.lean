/-
# JsonQuery.Path.Location — where a value stands in a document.

A location leads from the root down by array indices and member names.  It is written as a
normalized path (`$['a'][0]`), which is itself a path that selects the location, or as a JSON
pointer (`/a/0`).
-/
import JsonQuery.Value.Basic
import JsonQuery.Json.Pointer
import JsonQuery.Text.Basic

namespace JsonQuery

/-- One step down: into an array or into an object. -/
inductive Location.Element where
  | index (i : Nat)
  | name (s : String)
  deriving DecidableEq, Repr

/-- A location: the steps from the root. -/
abbrev Location := List Location.Element

namespace Location

/-- One character of a name between single quotes. -/
def escapeNameChar (c : Char) : List Char :=
  if c = '\'' then ['\\', '\'']
  else if c = '\\' then ['\\', '\\']
  else if c = '\x08' then ['\\', 'b']
  else if c = '\x0C' then ['\\', 'f']
  else if c = '\n' then ['\\', 'n']
  else if c = '\r' then ['\\', 'r']
  else if c = '\t' then ['\\', 't']
  else if c.toNat < 0x20 then
    ['\\', 'u', '0', '0', Text.lowerHexDigit (c.toNat / 16), Text.lowerHexDigit (c.toNat % 16)]
  else [c]

/-- A step as a normalized path writes it. -/
def Element.normalized : Element → List Char
  | .index i => '[' :: (toString i).toList ++ [']']
  | .name s => '[' :: '\'' :: s.toList.flatMap escapeNameChar ++ ['\'', ']']

/-- The normalized path of a location. -/
def normalized (l : Location) : String :=
  String.ofList ('$' :: l.flatMap Element.normalized)

/-- A step as a JSON pointer writes it. -/
def Element.pointer : Element → List Char
  | .index i => '/' :: (toString i).toList
  | .name s => '/' :: Json.escapeSegment s.toList

/-- The JSON pointer of a location. -/
def pointer (l : Location) : String :=
  String.ofList (l.flatMap Element.pointer)

/-- The child of a value that a step leads to. -/
def Element.child? (e : Element) (v : Value) : Option Value :=
  match e with
  | .index i => v.item? i
  | .name s => v.get? s

/-- The value at a location below a root. -/
def resolve? (l : Location) (root : Value) : Option Value :=
  l.foldlM (fun v e => e.child? v) root

end Location

end JsonQuery
