/-
# JsonQuery.Pattern.CharClass — the classes of characters that patterns know.

Patterns follow the edition of the standard before the latest one.  For them the characters that the
latest edition added are unassigned, and U+0295 is still a lowercase letter.
-/
import JsonQuery.Pattern.CharSet
import JsonQuery.Text.Alphabetic
import JsonQuery.Text.Basic
import JsonQuery.Text.CodeClass

namespace JsonQuery.Pattern

open Text (Category CodeClass RangeTable)

namespace CharSet

/-! ## Categories -/

/-- What the latest edition added. -/
def latest : CharSet := ofRanges Text.Edition.latestTable

/-- The characters that the latest edition has in a table, and the edition before it too. -/
def ofTable (table : RangeTable) : CharSet := (ofRanges table).diff latest

/-- The letter that the latest edition moved from the lowercase letters to the other letters. -/
def movedLetter : CharSet := single 0x295

/-- The characters of every category but the unassigned ones. -/
def categories : List (Category × CharSet) :=
  Category.tables.map fun (category, table) =>
    match category with
    | .lowercaseLetter => (category, (ofTable table).union movedLetter)
    | .otherLetter => (category, (ofTable table).diff movedLetter)
    | _ => (category, ofTable table)

/-- The characters. -/
def any : CharSet := empty.complement

/-- The characters that have a category. -/
def assigned : CharSet := unionOf (categories.map (·.2))

/-- The characters of one category. -/
def ofCategory (category : Category) : CharSet :=
  match category with
  | .unassigned => assigned.complement
  | _ => unionOf ((categories.filter (·.1 == category)).map (·.2))

/-- The characters of some categories. -/
def ofCategories (cs : List Category) : CharSet := unionOf (cs.map ofCategory)

/-- The characters of a class. -/
def ofClass (c : CodeClass) : CharSet :=
  ((ofCategories c.categories).union (ofRanges c.added)).diff (ofRanges c.removed)

/-! ## Words, digits and blanks -/

/-- The decimal digits. -/
def digits : CharSet := ofCategory .decimalNumber

/-- The blanks, of which U+3000 is the last. -/
def blanks : CharSet :=
  ofRanges (((List.range 0x3001).filter fun n => Text.isBlank (Char.ofNat n)).map fun n => ⟨n, n⟩)

/-- The ASCII digits. -/
def asciiDigits : CharSet := range 0x30 0x39

/-- The ASCII letters. -/
def asciiLetters : CharSet := ofRanges [⟨0x41, 0x5A⟩, ⟨0x61, 0x7A⟩]

/-- The ASCII blanks. -/
def asciiBlanks : CharSet := ofRanges [⟨0x09, 0x0D⟩, ⟨0x20, 0x20⟩]

/-- ASCII letters, digits and the underscore. -/
def asciiWordChars : CharSet := unionOf [asciiDigits, asciiLetters, single 0x5F]

/-- The characters with the property Alphabetic; the table begins behind ASCII. -/
def alphabetic : CharSet := asciiLetters.union (ofTable Text.alphabeticTable)

/-- The characters of words: letters, marks, decimal digits, connectors and joiners. -/
def wordChars : CharSet :=
  unionOf [alphabetic,
    ofCategories
      [.nonspacingMark, .spacingMark, .enclosingMark, .decimalNumber, .connectorPunctuation],
    range 0x200C 0x200D]

end CharSet

end JsonQuery.Pattern
