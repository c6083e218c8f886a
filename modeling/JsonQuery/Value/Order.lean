/-
# JsonQuery.Value.Order — equality and order of values.

Two objects are equal if their entries, sorted by name, agree one by one; entries of one name keep
their order.  Numbers are ordered by size and strings by UTF-16 code units; nothing else is ordered.
-/
import JsonQuery.Value.Basic
import JsonQuery.Text.Encoding

namespace JsonQuery.Value

/-- Entries in ascending order of their names; entries of one name keep their order. -/
def sortEntries (entries : List (String × Value)) : List (String × Value) :=
  entries.mergeSort (fun a b => decide (a.1 ≤ b.1))

mutual

/-- The value with the entries of every object in it sorted. -/
def sorted : Value → Value
  | .array items => .array (sortedItems items)
  | .object entries => .object (sortEntries (sortedEntries entries))
  | .null => .null
  | .bool b => .bool b
  | .number n => .number n
  | .string s => .string s
  | .reference id body => .reference id body

/-- Items with the entries of every object in them sorted. -/
def sortedItems : List Value → List Value
  | [] => []
  | item :: rest => item.sorted :: sortedItems rest

/-- Entries with the entries of every object in their values sorted. -/
def sortedEntries : List (String × Value) → List (String × Value)
  | [] => []
  | (name, value) :: rest => (name, value.sorted) :: sortedEntries rest

end

mutual

/-- Agreement place by place, entries in the order in which they stand. -/
def agrees : Value → Value → Bool
  | .null, .null => true
  | .bool a, .bool b => a == b
  | .number a, .number b => a.same b
  | .string a, .string b => a == b
  | .array a, .array b => itemsAgree a b
  | .object a, .object b => entriesAgree a b
  | .reference a _, .reference b _ => a == b
  | _, _ => false

/-- Agreement of items place by place. -/
def itemsAgree : List Value → List Value → Bool
  | [], [] => true
  | a :: as, b :: bs => a.agrees b && itemsAgree as bs
  | _, _ => false

/-- Agreement of entries place by place. -/
def entriesAgree : List (String × Value) → List (String × Value) → Bool
  | [], [] => true
  | (k, a) :: as, (l, b) :: bs => k == l && a.agrees b && entriesAgree as bs
  | _, _ => false

end

/-- Equality of values: kinds never mix, numbers are equal by size, arrays item by item, objects
whatever the order of their members, references only to themselves. -/
def same (a b : Value) : Bool := a.sorted.agrees b.sorted

instance : BEq Value := ⟨same⟩

/-- The order of two numbers or two strings. -/
def compare : Value → Value → Option Ordering
  | .number a, .number b => a.compare b
  | .string a, .string b => some (Text.compareUtf16 a b)
  | _, _ => none

end JsonQuery.Value
