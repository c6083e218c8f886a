/-
# JsonQuery.Function.Call — what the built-in functions compute.

A call has a value only if the arguments have the types that the function asks for.  `map`,
`sort_by`, `max_by` and `min_by` apply a reference to an expression; how is their first argument
here.
-/
import JsonQuery.Evaluation
import JsonQuery.Value.Order
import JsonQuery.Json.Reader
import JsonQuery.Json.Printer
import JsonQuery.Text.Basic

namespace JsonQuery

open Evaluation (allOrNone)

/-- How a reference is applied: its expression, on a current value. -/
abbrev Apply := Expr → Value → Evaluation (Option Value)

namespace Builtin

/-! ## Lists of numbers and sortable lists -/

/-- The numbers of an array of numbers. -/
def numbers? (items : List Value) : Option (List Number) := items.mapM Value.number?

/-- The sum of numbers. -/
def total (numbers : List Number) : Option Number := numbers.foldlM Number.add (Number.ofInt 0)

/-- The mean of numbers; `null` if there are none. -/
def mean (numbers : List Number) : Option Value :=
  if numbers.isEmpty then some .null
  else do
    let sum ← total numbers
    return .number (← sum.div (Number.ofInt numbers.length))

/-- Whether values can be sorted: all numbers, or all strings. -/
def sortable : List Value → Bool
  | [] => true
  | first :: rest =>
    (first.kind == .number || first.kind == .string) && rest.all (·.kind == first.kind)

/-- Values as they are, if they can be sorted. -/
def ensureSortable (values : List Value) : Option (List Value) :=
  if sortable values then some values else none

/-- The order of two values, equal if they have none. -/
def ordering (a b : Value) : Ordering := (a.compare b).getD .eq

/-- Values in their order; equal ones keep the order in which they stand.  Where comparison does not
rank the values, a sorting routine promises no order, and this is one that it may come to. -/
def sortValues (items : List Value) : List Value :=
  items.mergeSort (fun a b => ordering a b != .gt)

/-- The best of some values: the first one that none after it beats, where the order `wanted` of a
later value against the best so far replaces it. -/
def bestOf (wanted : Ordering) (items : List Value) : Option Value :=
  match items with
  | [] => none
  | first :: rest =>
    some (rest.foldl (fun best item => if ordering item best == wanted then item else best) first)

/-! ## Keys -/

/-- Values with keys in the order of the keys; equal keys keep their order.  For keys that comparison
does not rank, the order is not promised either. -/
def sortOn (keyed : List (Value × Value)) : List (Value × Value) :=
  keyed.mergeSort (fun a b => ordering a.1 b.1 != .gt)

/-- The value to keep of the best so far, if there is one, and the next: the best so far stays unless
the key of the next has the order `wanted` against its key. -/
def better (wanted : Ordering) (best : Option (Value × Value)) (next : Value × Value) :
    Option (Value × Value) :=
  match best with
  | some best => if ordering next.1 best.1 != wanted then some best else some next
  | none => some next

/-- The best of some keyed values, from left to right. -/
def bestOn (wanted : Ordering) (keyed : List (Value × Value)) : Option (Value × Value) :=
  keyed.foldl (better wanted) none

/-- Values with the keys that an expression computes, if all have one and the keys can be sorted. -/
def keyedBy (apply : Apply) (body : Expr) (items : List Value) :
    Evaluation (Option (List (Value × Value))) := do
  match ← allOrNone (apply body) items with
  | none => return none
  | some results => return (ensureSortable results).map (·.zip items)

/-- The array of sorted values. -/
def sortedValues (keyed : List (Value × Value)) : Value := .array ((sortOn keyed).map (·.2))

/-- The best value, or `null` if there is none. -/
def bestValue (wanted : Ordering) (keyed : List (Value × Value)) : Value :=
  ((bestOn wanted keyed).map (·.2)).getD .null

/-! ## Objects and strings -/

/-- One object after another: a name keeps its first place and gets its last value. -/
def mergeEntries (merged entries : Entries Value) : Entries Value :=
  entries.foldl (fun acc entry => acc.put entry.1 entry.2) merged

/-- All arguments merged, if all are objects. -/
def mergeAll (args : List Value) : Option (Entries Value) :=
  args.foldlM (fun merged arg => do return mergeEntries merged (← arg.entries?)) []

/-- The number that a text spells as a document. -/
def numberOfText (s : String) : Value :=
  match Json.parse? s with
  | some (.number n) => .number (Number.ofNumeral n)
  | _ => .null

/-! ## Calls -/

/-- The value of a call that applies no reference. -/
def value? : Builtin → List Value → Option Value
  | .abs, [.number n] => some (.number n.abs)
  | .avg, [.array items] => do mean (← numbers? items)
  | .ceil, [.number n] => some (.number n.ceil)
  | .contains, [.array items, needle] => some (.bool (items.any (·.same needle)))
  | .contains, [.string s, .string needle] => some (.bool (Text.occursIn needle.toList s.toList))
  | .contains, [.string _, _] => some (.bool false)
  | .endsWith, [.string s, .string suffix] => some (.bool (suffix.toList.isSuffixOf s.toList))
  | .floor, [.number n] => some (.number n.floor)
  | .join, [.string glue, .array items] => do
    return .string (String.intercalate glue (← items.mapM Value.string?))
  | .keys, [.object entries] => some (.array (entries.map fun entry => .string entry.1))
  | .length, [.string s] => some (.number (Number.ofInt s.length))
  | .length, [.array items] => some (.number (Number.ofInt items.length))
  | .length, [.object entries] => some (.number (Number.ofInt entries.length))
  | .max, [.array items] => do return (bestOf .gt (← ensureSortable items)).getD .null
  | .merge, arg :: args => do return .object (← mergeAll (arg :: args))
  | .min, [.array items] => do return (bestOf .lt (← ensureSortable items)).getD .null
  | .notNull, arg :: args => some (((arg :: args).find? (!·.isNull)).getD .null)
  | .reverse, [.string s] => some (.string (String.ofList s.toList.reverse))
  | .reverse, [.array items] => some (.array items.reverse)
  | .sort, [.array items] => do return .array (sortValues (← ensureSortable items))
  | .startsWith, [.string s, .string front] => some (.bool (front.toList.isPrefixOf s.toList))
  | .sum, [.array items] => do return .number (← total (← numbers? items))
  | .toArray, [.array items] => some (.array items)
  | .toArray, [v] => some (.array [v])
  | .toNumber, [.number n] => some (.number n)
  | .toNumber, [.string s] => some (numberOfText s)
  | .toNumber, [_] => some .null
  | .toString, [.string s] => some (.string s)
  | .toString, [v] => some (.string v.toJson.compact)
  | .type, [v] => some (.string v.kind.typeName)
  | .values, [.object entries] => some (.array (entries.map (·.2)))
  | _, _ => none

/-- The value of a call. -/
def call (apply : Apply) (b : Builtin) (args : List Value) : Evaluation (Option Value) :=
  match b, args with
  | .map, [.reference _ body, .array items] => do
    return (← allOrNone (apply body) items).map .array
  | .sortBy, [.array items, .reference _ body] => do
    return (← keyedBy apply body items).map sortedValues
  | .maxBy, [.array items, .reference _ body] => do
    return (← keyedBy apply body items).map (bestValue .gt)
  | .minBy, [.array items, .reference _ body] => do
    return (← keyedBy apply body items).map (bestValue .lt)
  | _, _ => return b.value? args

end Builtin

end JsonQuery
