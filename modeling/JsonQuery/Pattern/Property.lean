/-
# JsonQuery.Pattern.Property — the names of character properties.

A pattern names a general category, a group of them, a binary property or a script (`\p{Lu}`,
`\p{Letter}`, `\p{Alphabetic}`, `\p{Greek}`), or a property and its value (`\p{age=3.0}`).  Names
are compared loosely: letter case, blanks, hyphens, underscores and a leading `is` do not matter.
-/
import JsonQuery.Pattern.CharClass
import JsonQuery.Text.BinaryProperty
import JsonQuery.Text.Boundary
import JsonQuery.Text.Script

namespace JsonQuery.Pattern

open Text (Category)

/-- A name without what loose comparison ignores; of `isc` nothing is ignored, so that it does not
become the name of a category. -/
def looseName (name : List Char) : String :=
  let (stem, shortened) := match name with
    | i :: s :: rest => if i.toLower = 'i' && s.toLower = 's' then (rest, true) else (name, false)
    | _ => (name, false)
  let loose := (stem.filter fun c => c.toNat < 0x80 && c != ' ' && c != '_' && c != '-').map
    Char.toLower
  if shortened && loose = ['c'] then "isc" else String.ofList loose

/-- The general categories and their groups, under their loose names. -/
def categoryNames : List (List String × List Category) :=
  [(["c", "other"], [.control, .format, .surrogate, .privateUse, .unassigned]),
   (["cc", "control", "cntrl"], [.control]),
   (["cf", "format"], [.format]),
   (["cn", "unassigned"], [.unassigned]),
   (["co", "privateuse"], [.privateUse]),
   (["l", "letter"],
    [.uppercaseLetter, .lowercaseLetter, .titlecaseLetter, .modifierLetter, .otherLetter]),
   (["lc", "casedletter"], [.uppercaseLetter, .lowercaseLetter, .titlecaseLetter]),
   (["ll", "lowercaseletter"], [.lowercaseLetter]),
   (["lm", "modifierletter"], [.modifierLetter]),
   (["lo", "otherletter"], [.otherLetter]),
   (["lt", "titlecaseletter"], [.titlecaseLetter]),
   (["lu", "uppercaseletter"], [.uppercaseLetter]),
   (["m", "mark", "combiningmark"], [.nonspacingMark, .spacingMark, .enclosingMark]),
   (["mc", "spacingmark"], [.spacingMark]),
   (["me", "enclosingmark"], [.enclosingMark]),
   (["mn", "nonspacingmark"], [.nonspacingMark]),
   (["n", "number"], [.decimalNumber, .letterNumber, .otherNumber]),
   (["nd", "decimalnumber", "digit"], [.decimalNumber]),
   (["nl", "letternumber"], [.letterNumber]),
   (["no", "othernumber"], [.otherNumber]),
   (["p", "punctuation", "punct"],
    [.connectorPunctuation, .dashPunctuation, .openPunctuation, .closePunctuation,
     .initialPunctuation, .finalPunctuation, .otherPunctuation]),
   (["pc", "connectorpunctuation"], [.connectorPunctuation]),
   (["pd", "dashpunctuation"], [.dashPunctuation]),
   (["pe", "closepunctuation"], [.closePunctuation]),
   (["pf", "finalpunctuation"], [.finalPunctuation]),
   (["pi", "initialpunctuation"], [.initialPunctuation]),
   (["po", "otherpunctuation"], [.otherPunctuation]),
   (["ps", "openpunctuation"], [.openPunctuation]),
   (["s", "symbol"], [.mathSymbol, .currencySymbol, .modifierSymbol, .otherSymbol]),
   (["sc", "currencysymbol"], [.currencySymbol]),
   (["sk", "modifiersymbol"], [.modifierSymbol]),
   (["sm", "mathsymbol"], [.mathSymbol]),
   (["so", "othersymbol"], [.otherSymbol]),
   (["z", "separator"], [.spaceSeparator, .lineSeparator, .paragraphSeparator]),
   (["zl", "lineseparator"], [.lineSeparator]),
   (["zp", "paragraphseparator"], [.paragraphSeparator]),
   (["zs", "spaceseparator"], [.spaceSeparator])]

/-- The set of a general category, a group of categories, or one of the sets that are named like
categories. -/
def categorySet? (name : String) : Option CharSet :=
  if name = "any" then some .any
  else if name = "assigned" then some .assigned
  else if name = "ascii" then some (.range 0 0x7F)
  else (categoryNames.find? (·.1.contains name)).map fun entry => .ofCategories entry.2

/-- The characters of a script. -/
def scriptSet? (name : String) : Option CharSet := do
  return .ofRanges (← Text.Script.ofName? name).table

/-- The characters of a script, extensions included. -/
def extendedScriptSet? (name : String) : Option CharSet := do
  let script ← Text.Script.ofName? name
  return (
    if script.isShared then
      (CharSet.ofRanges script.table).diff (.ofRanges (Text.Script.all.flatMap (·.extensions)))
    else .ofRanges (script.table ++ script.extensions))

/-- The characters of a class among some. -/
def classSet? (classes : List Text.CodeClass) (name : String) : Option CharSet :=
  (Text.CodeClass.ofName? classes name).map CharSet.ofClass

/-- The set of a binary property. -/
def binarySet? (name : String) : Option CharSet :=
  match name with
  | "alphabetic" | "alpha" => some .alphabetic
  | "whitespace" | "wspace" | "space" => some .blanks
  | _ => classSet? Text.binaryProperties name

/-- The characters of a class around boundaries between those that a user sees. -/
def graphemeBreakSet? (name : String) : Option CharSet :=
  match name with
  | "lv" => some (.ofRanges Text.openSyllables)
  | "lvt" => some (.ofRanges Text.closedSyllables)
  | _ => classSet? Text.graphemeBreaks name

/-- The characters of an edition and of all before it. -/
def ageSet? (name : String) : Option CharSet :=
  (Text.Edition.table name Text.Edition.all).map CharSet.ofRanges

/-- The set of a property named alone: a binary property, a category or a script. -/
def namedSet? (name : List Char) : Option CharSet :=
  let loose := looseName name
  binarySet? loose <|> categorySet? loose <|> scriptSet? loose

/-- The set of a property with a value, `gc=Lu`. -/
def valuedSet? (name value : List Char) : Option CharSet :=
  let value := looseName value
  match looseName name with
  | "gc" | "generalcategory" => categorySet? value
  | "sc" | "script" => scriptSet? value
  | "scx" | "scriptextensions" => extendedScriptSet? value
  | "age" => ageSet? value
  | "gcb" | "graphemeclusterbreak" => graphemeBreakSet? value
  | "wb" | "wordbreak" => classSet? Text.wordBreaks value
  | "sb" | "sentencebreak" => classSet? Text.sentenceBreaks value
  | _ => none

/-- The text before and behind the first place where a separator stands. -/
def splitAtFirst (separator : List Char) : List Char → Option (List Char × List Char)
  | [] => none
  | c :: rest =>
    if separator.isPrefixOf (c :: rest) then some ([], (c :: rest).drop separator.length)
    else (splitAtFirst separator rest).map fun (before, behind) => (c :: before, behind)

/-- The set that the text between the braces of `\p` describes, and whether its complement is
meant. -/
def propertySet? (text : List Char) : Option (CharSet × Bool) :=
  match splitAtFirst ['!', '='] text with
  | some (name, value) => (valuedSet? name value).map (·, true)
  | none =>
    match splitAtFirst [':'] text with
    | some (name, value) => (valuedSet? name value).map (·, false)
    | none =>
      match splitAtFirst ['='] text with
      | some (name, value) => (valuedSet? name value).map (·, false)
      | none => (namedSet? text).map (·, false)

end JsonQuery.Pattern
