/-
# JsonQuery.Uri.Domain — domain names.

Characters are replaced, and the name is put into its composed form and divided into labels.  A
label beyond ASCII is written in Punycode, and one that comes in Punycode must be what would be
written.  Joiners stand only where they make a difference, no label starts with a mark, and if any
character runs to the left, every label runs in one direction.
-/
import JsonQuery.Text.Composition
import JsonQuery.Text.Direction
import JsonQuery.Uri.DomainChar
import JsonQuery.Uri.Percent
import JsonQuery.Uri.Punycode

namespace JsonQuery.Uri

open Text (Category Direction Joining combiningClass composed)

/-! ## Labels -/

/-- What must not stand in a domain name. -/
def isForbiddenInDomain (c : Char) : Bool :=
  isControl c
    || [' ', '#', '/', ':', '<', '>', '?', '@', '[', '\\', ']', '^', '|', '%'].contains c

/-- Whether the letters on a side, nearest first, join with what is between them, marks aside. -/
def joinsAcross (sides : List Joining) : List Char → Bool
  | [] => false
  | c :: rest =>
    let joining := Joining.ofCodePoint c.toNat
    sides.contains joining || (joining == .transparent && joinsAcross sides rest)

/-- Whether every joiner of a label stands where it may: behind a virama, or, if it separates,
between letters that would join.  What comes before is given last one first. -/
def joinersFit (before : List Char) : List Char → Bool
  | [] => true
  | c :: rest =>
    (if c = '\u200C' || c = '\u200D' then
      before.head?.any (combiningClass ·.toNat == 9)
        || (c = '\u200C' && joinsAcross [.left, .both] before && joinsAcross [.right, .both] rest)
      else true)
      && joinersFit (c :: before) rest

/-- Whether a character is a mark. -/
def isMark (c : Char) : Bool :=
  [Category.nonspacingMark, .spacingMark, .enclosingMark].contains
    (Category.ofCodePoint c.toNat)

/-- The longest label beyond ASCII. -/
def maxLabelLength : Nat := 1000

/-- The most digits of a Punycode. -/
def maxPunycodeLength : Nat := 2000

/-- Whether a label whose characters have been replaced may stand in a domain name. -/
def labelFits (label : List Char) : Bool :=
  !label.any isForbiddenInDomain && !label.head?.any isMark && joinersFit [] label
    && (label.all (·.toNat < 0x80) || label.length ≤ maxLabelLength)

/-- The label of a Punycode; it must need no replacement. -/
def punycodeLabel? (text : List Char) : Option (List Char) := do
  if text.getLast? = some '-' || text.isEmpty || maxPunycodeLength < text.length then none
  let label ← ofPunycode? text
  if label.all (fun c => domainChar? c == some [c]) && composed label = label
      && !label.contains '.' && labelFits label then
    return label
  else none

/-- The mark of a label in Punycode. -/
def punycodeMark : List Char := ['x', 'n', '-', '-']

/-- A label and its form in ASCII, from a label whose characters have been replaced. -/
def label? (text : List Char) : Option (List Char × List Char) := do
  if punycodeMark.isPrefixOf text then
    if !text.all (·.toNat < 0x80) then none
    return (← punycodeLabel? (text.drop 4), text)
  else if !labelFits text then none
  else if text.all (·.toNat < 0x80) then return (text, text)
  else return (text, punycodeMark ++ punycode text)

/-! ## Directions -/

/-- Whether a label of characters of some directions runs in one direction; marks at the end do not
count. -/
def runsOneWay (directions : List Direction) : Bool :=
  let last := (directions.reverse.dropWhile (· == .mark)).head?
  match directions with
  | [] => true
  | .leftToRight :: _ =>
    !directions.contains .rightToLeft && !directions.contains .arabicNumber
      && last.any [Direction.leftToRight, .europeanNumber].contains
  | .rightToLeft :: _ =>
    !directions.contains .leftToRight
      && !(directions.contains .europeanNumber && directions.contains .arabicNumber)
      && last.any [Direction.rightToLeft, .europeanNumber, .arabicNumber].contains
  | _ => false

/-- Whether the labels of a domain name may stand side by side. -/
def directionsFit (labels : List (List Char)) : Bool :=
  let directions := labels.map fun label => label.map (Direction.ofCodePoint ·.toNat)
  !directions.any (fun ds => ds.contains .rightToLeft || ds.contains .arabicNumber)
    || directions.all runsOneWay

/-! ## Names -/

/-- A domain name in ASCII and lower case. -/
def domain? (text : List Char) : Option (List Char) := do
  let replaced := composed (← text.mapM domainChar?).flatten
  let labels ← (replaced.splitOn '.').mapM label?
  if directionsFit (labels.map (·.1)) then return List.intercalate ['.'] (labels.map (·.2))
  else none

end JsonQuery.Uri
