/-
# JsonQuery.Held — values as a search holds them.

A search does not copy its document.  An array or an object of the document is held as a view, whose
parts become values when they are asked for; what the search computes it holds as its own.  A view is
read by looking into the document and written back by copying that part of it, an own array or object is
read by looking at what was computed and written back value by value.
-/
import JsonQuery.Value.Fingerprint
import JsonQuery.Value.Operation

namespace JsonQuery

/-- Entries in ascending order of their names; entries of one name keep their order. -/
def Entries.sortByName {α : Type} (entries : Entries α) : Entries α :=
  entries.mergeSort (fun a b => decide (a.1 ≤ b.1))

/-- A value as it is held. -/
inductive Held where
  | null
  | bool (b : Bool)
  | number (n : Number)
  | string (s : String)
  /-- An array of the document. -/
  | viewArray (items : List Json)
  /-- An array that was computed. -/
  | ownArray (items : List Held)
  /-- An object of the document. -/
  | viewObject (members : List (String × Json))
  /-- An object that was computed; it may repeat a name. -/
  | ownObject (entries : List (String × Held))
  | reference (id : Nat) (body : Expr)

namespace Held

instance : Inhabited Held := ⟨.null⟩

/-- A part of a document, which is not copied. -/
def ofJson : Json → Held
  | .null => .null
  | .bool b => .bool b
  | .number n => .number (Number.ofNumeral n)
  | .string s => .string s
  | .array items => .viewArray items
  | .object members => .viewObject members

/-! ## Reading -/

/-- What a value is when the items of an array or the entries of an object are taken out of it one
after another. -/
inductive Content where
  | null
  | bool (b : Bool)
  | number (n : Number)
  | string (s : String)
  | array (items : List Held)
  | object (entries : Entries Held)
  | reference (id : Nat) (body : Expr)

/-- The content: a view makes a value of every part, and an own array or object gives its values. -/
def content : Held → Content
  | .null => .null
  | .bool b => .bool b
  | .number n => .number n
  | .string s => .string s
  | .viewArray items => .array (items.map ofJson)
  | .ownArray items => .array items
  | .viewObject members => .object (members.map fun entry => (entry.1, ofJson entry.2))
  | .ownObject entries => .object entries
  | .reference id body => .reference id body

/-- The items of an array, one after another. -/
def items? (h : Held) : Option (List Held) :=
  match h.content with
  | .array items => some items
  | _ => none

/-- The entries of an object, one after another. -/
def entries? (h : Held) : Option (Entries Held) :=
  match h.content with
  | .object entries => some entries
  | _ => none

/-- The dynamic type. -/
def kind : Held → Kind
  | .null => .null
  | .bool true => .true
  | .bool false => .false
  | .number _ => .number
  | .string _ => .string
  | .viewArray _ | .ownArray _ => .array
  | .viewObject _ | .ownObject _ => .object
  | .reference .. => .expression

/-- Whether the value is `null`. -/
def isNull : Held → Bool
  | .null => true
  | _ => false

/-- What counts as true: everything but `null`, `false`, and the empty string, array and object.
Numbers are always true. -/
def isTruthy : Held → Bool
  | .null => false
  | .bool b => b
  | .number _ => true
  | .reference .. => true
  | .string s => !s.isEmpty
  | .viewArray items => !items.isEmpty
  | .ownArray items => !items.isEmpty
  | .viewObject members => !members.isEmpty
  | .ownObject entries => !entries.isEmpty

/-- The text of a string. -/
def string? : Held → Option String
  | .string s => some s
  | _ => none

/-- The number of a number. -/
def number? : Held → Option Number
  | .number n => some n
  | _ => none

/-- The number of items of an array or entries of an object. -/
def size : Held → Nat
  | .viewArray items => items.length
  | .ownArray items => items.length
  | .viewObject members => members.length
  | .ownObject entries => entries.length
  | _ => 0

/-- The element at a place; none if there is none or this is no array. -/
def item? (h : Held) (i : Nat) : Option Held :=
  match h with
  | .viewArray items => items[i]?.map ofJson
  | .ownArray items => items[i]?
  | _ => none

/-- The member of a name; none if it is missing or this is no object.  An object of the document looks
the name up, a computed one goes through its entries. -/
def get? (h : Held) (name : String) : Option Held :=
  match h with
  | .viewObject members => (Entries.get? members name).map ofJson
  | .ownObject entries => Entries.get? entries name
  | _ => none

/-! ## Writing -/

mutual

/-- The document of a value: a copy of what is viewed, and what is written for what was computed. -/
def toJson : Held → Json
  | .null => .null
  | .bool b => .bool b
  | .number n => n.toJson
  | .string s => .string s
  | .viewArray items => .array items
  | .ownArray items => .array (itemsToJson items)
  | .viewObject members => .object members
  | .ownObject entries => .object (Value.collapse (entriesToJson entries))
  | .reference .. => .null

/-- The documents of items. -/
def itemsToJson : List Held → List Json
  | [] => []
  | item :: rest => item.toJson :: itemsToJson rest

/-- The documents of entries. -/
def entriesToJson : List (String × Held) → List (String × Json)
  | [] => []
  | (name, held) :: rest => (name, held.toJson) :: entriesToJson rest

end

/-! ## The nesting of values -/

mutual

/-- The nesting of arrays and objects, viewed or computed. -/
def height : Held → Nat
  | .viewArray items => Json.heightOfItems items + 1
  | .ownArray items => heightOfItems items + 1
  | .viewObject members => Json.heightOfMembers members + 1
  | .ownObject entries => heightOfEntries entries + 1
  | _ => 0

/-- The greatest nesting among items. -/
def heightOfItems : List Held → Nat
  | [] => 0
  | item :: rest => max item.height (heightOfItems rest)

/-- The greatest nesting among entries. -/
def heightOfEntries : List (String × Held) → Nat
  | [] => 0
  | (_, held) :: rest => max held.height (heightOfEntries rest)

end

theorem height_ofJson (json : Json) : (ofJson json).height = json.height := by
  cases json <;> simp [ofJson, height, Json.height]

theorem heightOfItems_map_ofJson (items : List Json) :
    heightOfItems (items.map ofJson) = Json.heightOfItems items := by
  induction items with
  | nil => rfl
  | cons item rest ih => rw [List.map_cons, heightOfItems, Json.heightOfItems, height_ofJson, ih]

theorem heightOfEntries_map_ofJson (members : List (String × Json)) :
    heightOfEntries (members.map fun entry => (entry.1, ofJson entry.2)) =
      Json.heightOfMembers members := by
  induction members with
  | nil => rfl
  | cons entry rest ih => rw [List.map_cons, heightOfEntries, Json.heightOfMembers, height_ofJson, ih]

theorem height_le_heightOfItems {item : Held} {items : List Held} (h : item ∈ items) :
    item.height ≤ heightOfItems items := by
  induction items with
  | nil => cases h
  | cons first rest ih =>
      rw [heightOfItems]
      rcases List.mem_cons.mp h with rfl | hrest
      · exact Nat.le_max_left ..
      · exact Nat.le_trans (ih hrest) (Nat.le_max_right ..)

theorem height_le_heightOfEntries {entry : String × Held} {entries : List (String × Held)}
    (h : entry ∈ entries) : entry.2.height ≤ heightOfEntries entries := by
  induction entries with
  | nil => cases h
  | cons first rest ih =>
      rw [heightOfEntries]
      rcases List.mem_cons.mp h with rfl | hrest
      · exact Nat.le_max_left ..
      · exact Nat.le_trans (ih hrest) (Nat.le_max_right ..)

/-- What is taken out of an array nests less deep than the array. -/
theorem height_lt_of_array {h : Held} {items : List Held} (hcontent : h.content = .array items)
    {item : Held} (hitem : item ∈ items) : item.height < h.height := by
  have hle := height_le_heightOfItems hitem
  cases h with
  | viewArray own =>
      obtain rfl := Content.array.inj hcontent
      rw [heightOfItems_map_ofJson] at hle
      exact Nat.lt_succ_of_le hle
  | ownArray own =>
      obtain rfl := Content.array.inj hcontent
      exact Nat.lt_succ_of_le hle
  | _ => cases hcontent

/-- What is taken out of an object nests less deep than the object. -/
theorem height_lt_of_object {h : Held} {entries : Entries Held}
    (hcontent : h.content = .object entries) {entry : String × Held} (hentry : entry ∈ entries) :
    entry.2.height < h.height := by
  have hle := height_le_heightOfEntries hentry
  cases h with
  | viewObject own =>
      obtain rfl := Content.object.inj hcontent
      rw [heightOfEntries_map_ofJson] at hle
      exact Nat.lt_succ_of_le hle
  | ownObject own =>
      obtain rfl := Content.object.inj hcontent
      exact Nat.lt_succ_of_le hle
  | _ => cases hcontent

/-! ## Equality, order and hashing -/

/-- Equality of values: kinds never mix, numbers are equal by size, arrays item by item, objects entry by
entry once the entries are in the order of their names, references only to themselves. -/
def same (a b : Held) : Bool :=
  match _hcontent : a.content, b.content with
  | .null, .null => true
  | .bool p, .bool q => p == q
  | .number m, .number n => m.same n
  | .string s, .string t => s == t
  | .array items, .array others =>
    items.length == others.length && (items.attach.zip others).all fun p => same p.1.1 p.2
  | .object entries, .object others =>
    entries.length == others.length &&
      (entries.sortByName.attach.zip others.sortByName).all fun p =>
        p.1.1.1 == p.2.1 && same p.1.1.2 p.2.2
  | .reference i _, .reference j _ => i == j
  | _, _ => false
termination_by a.height
decreasing_by
  · exact height_lt_of_array ‹_› p.1.2
  · exact height_lt_of_object ‹_› (List.mem_mergeSort.mp p.1.2)

/-- The order of two numbers or two strings. -/
def compare : Held → Held → Option Ordering
  | .number a, .number b => a.compare b
  | .string a, .string b => some (Text.compareUtf16 a b)
  | _, _ => none

/-- What a hash of the value is fed, to a depth: the kind, and then the content. -/
def marks : Nat → Held → List Value.Mark
  | 0, h => [.kind h.kind]
  | depth + 1, h => .kind h.kind ::
    match h.content with
    | .number n => [Value.numberMark n]
    | .string s => [.text s]
    | .array items => .size items.length :: items.flatMap (marks depth)
    | .object entries => .size entries.length ::
        entries.sortByName.flatMap fun entry => .text entry.1 :: entry.2.marks depth
    | .reference id _ => [.reference id]
    | .null | .bool _ => []

/-! ## Operators -/

/-- The result that the left operand decides alone, if it does. -/
def shortCircuit (left : Held) (op : BinaryOperator) : Option Held :=
  match op with
  | .or => if left.isTruthy then some left else none
  | .and => if left.isTruthy then none else some left
  | _ => none

/-- A comparison of two values. -/
def compareValues (left : Held) (op : BinaryOperator) (right : Held) : Held :=
  match left.compare right with
  | none => .null
  | some o => .bool (op.accepts o)

/-- An arithmetic operation on two values. -/
def arithmetic (f : Number → Number → Option Number) (left right : Held) : Option Held :=
  match left, right with
  | .number a, .number b => (f a b).map .number
  | _, _ => none

/-- The value of an infix operation. -/
def binary (left : Held) (op : BinaryOperator) (right : Held) : Option Held :=
  match op with
  | .or => some (if left.isTruthy then left else right)
  | .and => some (if left.isTruthy then right else left)
  | .equal => some (.bool (left.same right))
  | .notEqual => some (.bool (!left.same right))
  | .lessThan | .lessEqual | .greaterThan | .greaterEqual => some (left.compareValues op right)
  | .add => arithmetic Number.add left right
  | .subtract => arithmetic Number.sub left right
  | .multiply => arithmetic Number.mul left right
  | .divide => arithmetic Number.div left right
  | .modulo => arithmetic Number.rem left right
  | .integerDivide => arithmetic Number.divFloor left right

/-- The value of a prefix operation. -/
def unary (operand : Held) (op : UnaryOperator) : Option Held :=
  match op with
  | .not => some (.bool (!operand.isTruthy))
  | .minus => operand.number?.map fun n => .number n.neg

end Held

end JsonQuery
