/-
# JsonQuery.Text.Quoted — texts in double quotes, with escapes for what cannot be seen.

Quotes and backslashes get a backslash, line ends, tabs and the null character a letter or digit,
and every other character that is not printed, or that would change the one before it, its code
point in braces.
-/
import JsonQuery.Text.Category

namespace JsonQuery.Text

/-- Code points that extend the character before them although they are no marks of that kind. -/
def otherExtenders : RangeTable := RangeTable.ofRows
  ["9BE 9D7 B3E B57 BBE BD7 CC0 CC2 CC7-CC8 CCA-CCB CD5-CD6 D3E D57 DCF DDF 1715 1734 1B35 1B3B",
   "1B3D 1B43-1B44 1BAA 1BF2-1BF3 200C 302E-302F A953 A9C0 FF9E-FF9F 111C0 11235 1133E 1134D",
   "11357 113B8 113C2 113C5 113C7-113C9 113CF 114B0 114BD 115AF 116B6 11930 1193D 11F41",
   "16FF0-16FF1 1D165-1D166 1D16D-1D172 E0020-E007F"]

/-- Whether a character joins the one before it. -/
def extendsPrevious (c : Char) : Bool :=
  match Category.ofCodePoint c.toNat with
  | .nonspacingMark | .enclosingMark => true
  | _ => otherExtenders.contains c.toNat

/-- Whether a character is seen when it is written. -/
def isPrintable (c : Char) : Bool :=
  if c.toNat < 0x7F then 0x20 ≤ c.toNat
  else match Category.ofCodePoint c.toNat with
    | .control | .format | .surrogate | .privateUse | .unassigned | .lineSeparator
    | .paragraphSeparator | .spaceSeparator => false
    | _ => true

/-- The hexadecimal digits of a number. -/
def hexDigitsOf (n : Nat) : List Char := Nat.toDigits 16 n

/-- One character between quotes. -/
def quotedChar (c : Char) : List Char :=
  if c = '"' || c = '\\' then ['\\', c]
  else if c = '\n' then ['\\', 'n']
  else if c = '\r' then ['\\', 'r']
  else if c = '\t' then ['\\', 't']
  else if c.toNat = 0 then ['\\', '0']
  else if isPrintable c && !extendsPrevious c then [c]
  else '\\' :: 'u' :: '{' :: hexDigitsOf c.toNat ++ ['}']

/-- A text in quotes. -/
def quoted (s : String) : String :=
  String.ofList ('"' :: s.toList.flatMap quotedChar ++ ['"'])

end JsonQuery.Text
