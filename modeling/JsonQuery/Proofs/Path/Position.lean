/-
# JsonQuery.Proofs.Path.Position — locations in a document.

A location leads down from the value of a document.  The value it reaches is that of a part of the
document, and the pointer that the location is written as finds this part.  Both follow from walking
down the document itself, step by step.
-/
import JsonQuery.Proofs.Value.Document
import JsonQuery.Path.Location

namespace JsonQuery.Location

/-! ## Walking down a document -/

/-- The part of a document one step down. -/
def Element.part? (e : Element) (json : Json) : Option Json :=
  match e, json with
  | .index i, .array items => items[i]?
  | .name s, .object members => Entries.get? members s
  | _, _ => none

/-- **`l.part? document`** — the part of a document that a location leads to. -/
def part? (l : Location) (document : Json) : Option Json :=
  l.foldlM (fun json e => e.part? json) document

variable {document json : Json} {l : Location} {e : Element}

theorem part?_cons (e : Element) (l : Location) (document : Json) :
    part? (e :: l) document = (e.part? document).bind (part? l) := rfl

theorem part?_append (l below : Location) (document : Json) :
    part? (l ++ below) document = (part? l document).bind (part? below) := by
  rw [part?, List.foldlM_append]
  rfl

theorem part?_snoc (h : part? l document = some json) (e : Element) :
    part? (l ++ [e]) document = e.part? json := by
  rw [part?_append, h, Option.bind_some, part?_cons]
  exact Option.bind_fun_some _

variable {test : Json → Bool}

theorem Element.everywhere_part? (htest : document.everywhere test = true)
    (h : e.part? document = some json) : json.everywhere test = true := by
  cases e with
  | index i =>
      cases document with
      | array items => exact Json.everywhere_item htest json (List.mem_of_getElem? h)
      | null | bool | number | string | object => cases h
  | name s =>
      cases document with
      | object members => exact Json.everywhere_get? htest h
      | null | bool | number | string | array => cases h

/-- What holds everywhere in a document holds everywhere in its parts. -/
theorem everywhere_part? (htest : document.everywhere test = true)
    (h : part? l document = some json) : json.everywhere test = true := by
  induction l generalizing document with
  | nil => exact Option.some.inj h ▸ htest
  | cons e rest ih =>
      obtain ⟨part, hpart, hrest⟩ := Option.bind_eq_some_iff.mp h
      exact ih (Element.everywhere_part? htest hpart) hrest

/-! ## Values -/

theorem get?_ofMembers (members : Entries Json) (name : String) :
    Entries.get? (Value.ofMembers members) name = (members.get? name).map .ofJson := by
  rw [Value.ofMembers_eq_map, Entries.get?_map]

/-- The value one step down is that of the part one step down. -/
theorem Element.child?_ofJson (e : Element) (json : Json) :
    e.child? (.ofJson json) = (e.part? json).map .ofJson := by
  cases e with
  | index i =>
      cases json with
      | array items =>
          rw [Value.ofJson, Value.ofItems_eq_map]
          exact List.getElem?_map
      | null | bool | number | string | object =>
          rw [Value.ofJson]
          rfl
  | name s =>
      cases json with
      | object members =>
          rw [Value.ofJson]
          exact get?_ofMembers members s
      | null | bool | number | string | array =>
          rw [Value.ofJson]
          rfl

/-- **`resolve?_ofJson`** — the value at a location is that of the part there. -/
theorem resolve?_ofJson (l : Location) (document : Json) :
    l.resolve? (.ofJson document) = (l.part? document).map .ofJson := by
  induction l generalizing document with
  | nil => rfl
  | cons e rest ih =>
      have hcons : resolve? (e :: rest) (.ofJson document)
          = (e.child? (.ofJson document)).bind (resolve? rest) := rfl
      rw [hcons, part?_cons, Element.child?_ofJson]
      cases e.part? document with
      | none => rfl
      | some part => exact ih part

/-! ## Pointers -/

/-- What a step is called in a pointer. -/
def Element.segment : Element → String
  | .index i => toString i
  | .name s => s

/-- There is nothing to escape in the digits of an index. -/
theorem escapeSegment_toString (i : Nat) :
    Json.escapeSegment (toString i).toList = (toString i).toList := by
  rw [Json.escapeSegment]
  refine (List.flatMap_congr fun c hc => ?_).trans (List.flatMap_singleton' _)
  have hdigit := Json.isAsciiDigit_of_mem_toString hc
  have htilde : c ≠ '~' := by
    rintro rfl
    exact absurd hdigit (by decide)
  have hslash : c ≠ '/' := by
    rintro rfl
    exact absurd hdigit (by decide)
  rw [if_neg htilde, if_neg hslash]

theorem Element.pointer_eq (e : Element) :
    e.pointer = '/' :: Json.escapeSegment e.segment.toList := by
  cases e with
  | index i => rw [Element.pointer, Element.segment, escapeSegment_toString]
  | name s => rfl

theorem pointer_eq (l : Location) : l.pointer = Json.pointerBelow "" (l.map Element.segment) := by
  have hbelow : ∀ start : List Char, String.ofList (start ++ l.flatMap Element.pointer)
      = Json.pointerBelow (String.ofList start) (l.map Element.segment) := by
    induction l with
    | nil => intro start; rw [List.flatMap_nil, List.append_nil]; rfl
    | cons e rest ih =>
        intro start
        have hone : String.ofList (start ++ '/' :: Json.escapeSegment e.segment.toList)
            = String.ofList start ++ "/" ++ String.ofList (Json.escapeSegment e.segment.toList) := by
          rw [List.append_cons, String.ofList_append, String.ofList_append]
        rw [List.flatMap_cons, ← List.append_assoc, ih, Element.pointer_eq, hone]
        rfl
  exact hbelow []

/-- A step down a document in form is found under what it is called in a pointer. -/
theorem Element.child?_segment (hproper : document.isProper = true)
    (h : e.part? document = some json) : document.child? e.segment.toList = some json := by
  cases e with
  | index i =>
      cases document with
      | array items =>
          obtain ⟨hlt, -⟩ := List.getElem?_eq_some_iff.mp h
          exact Json.child?_of_getElem? (hlt.trans (Json.length_lt hproper)) h
      | null | bool | number | string | object => cases h
  | name s =>
      cases document with
      | object members => exact Json.child?_of_get? h
      | null | bool | number | string | array => cases h

/-- **`pointer?_pointer`** — the pointer of a location finds the part there. -/
theorem pointer?_pointer (hproper : document.isProper = true) (h : part? l document = some json) :
    document.pointer? l.pointer = some json := by
  rw [pointer_eq, Json.pointer?_pointerBelow]
  change document.follow? (l.map Element.segment) = some json
  induction l generalizing document with
  | nil => exact h
  | cons e rest ih =>
      obtain ⟨part, hpart, hrest⟩ := Option.bind_eq_some_iff.mp h
      rw [List.map_cons, Json.follow?_cons, Element.child?_segment hproper hpart, Option.bind_some]
      exact ih (Element.everywhere_part? hproper hpart) hrest

end JsonQuery.Location
