/-
# JsonQuery.Schema.Printer — the nodes of a schema as text.
-/
import JsonQuery.Schema.Basic
import JsonQuery.Json.Printer

namespace JsonQuery.Schema

/-- Texts, each behind a blank. -/
def spaced (texts : List String) : String := String.join (texts.map (" " ++ ·))

/-- Slots, each behind a blank. -/
def slotTexts (slots : List Slot) : String := spaced (slots.map toString)

/-- A slot, or a hyphen. -/
def slotText : Option Slot → String
  | some slot => toString slot
  | none => "-"

/-- A name and what it stands for. -/
def entryText (name target : String) : String := Json.quote name ++ ":" ++ target

/-- What a dependency demands. -/
def Dependency.toText : Dependency → String
  | .required names => "[" ++ String.intercalate " " (names.map Json.quote) ++ "]"
  | .schema slot => toString slot

/-- A keyword. -/
def Keyword.toText : Keyword → String
  | .type types => "type" ++ spaced (types.map JsonType.name)
  | .enum values => "enum " ++ (Json.array values).compact
  | .const value => "const " ++ value.compact
  | .required names => "required" ++ spaced (names.map Json.quote)
  | .properties schemas =>
    "properties" ++ spaced (schemas.map fun (name, slot) => entryText name (toString slot))
  | .patternProperties schemas =>
    "patternProperties" ++
      spaced (schemas.map fun (pattern, slot) => entryText pattern.source (toString slot))
  | .additionalProperties slot known patterns =>
    "additionalProperties " ++ toString slot ++ " known" ++ spaced (known.map Json.quote)
      ++ " patterns" ++ spaced (patterns.map fun p => Json.quote p.source)
  | .items slot => "items " ++ toString slot
  | .tuple slots additional => "tuple" ++ slotTexts slots ++ " additional " ++ slotText additional
  | .contains slot => "contains " ++ toString slot
  | .uniqueItems => "uniqueItems"
  | .propertyNames slot => "propertyNames " ++ toString slot
  | .dependencies entries =>
    "dependencies" ++ spaced (entries.map fun (name, d) => entryText name d.toText)
  | .allOf slots => "allOf" ++ slotTexts slots
  | .anyOf slots => "anyOf" ++ slotTexts slots
  | .oneOf slots => "oneOf" ++ slotTexts slots
  | .not slot => "not " ++ toString slot
  | .conditional condition positive negative =>
    "if " ++ toString condition ++ " then " ++ slotText positive ++ " else " ++ slotText negative
  | .ref slot => "ref " ++ toString slot

end JsonQuery.Schema
