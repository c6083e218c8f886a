/-
# JsonQuery.Held.Call — built-in functions on values as they are held.

The functions look at the content of their arguments, whether it is viewed or was computed.  An argument
that is given back, whole or in parts, stays what it is: a view is not copied on the way.  What a
function builds is its own.
-/
import JsonQuery.Function.Call
import JsonQuery.Held.Basic

namespace JsonQuery.Held

open Evaluation (allOrNone)

/-- How a reference is applied: its expression, on a current value. -/
abbrev Apply := Expr → Held → Evaluation (Option Held)

/-! ## Lists of numbers and sortable lists -/

/-- The numbers of an array of numbers. -/
def numbers? (items : List Held) : Option (List Number) := items.mapM number?

/-- The mean of numbers; `null` if there are none. -/
def mean (numbers : List Number) : Option Held :=
  if numbers.isEmpty then some .null
  else do
    let sum ← Builtin.total numbers
    return .number (← sum.div (Number.ofInt numbers.length))

/-- Whether values can be sorted: all numbers, or all strings. -/
def sortable : List Held → Bool
  | [] => true
  | first :: rest =>
    (first.kind == .number || first.kind == .string) && rest.all (·.kind == first.kind)

/-- Values as they are, if they can be sorted. -/
def ensureSortable (values : List Held) : Option (List Held) :=
  if sortable values then some values else none

/-- The order of two values, equal if they have none. -/
def ordering (a b : Held) : Ordering := (a.compare b).getD .eq

/-- Values in their order; equal ones keep the order in which they stand. -/
def sortValues (items : List Held) : List Held :=
  items.mergeSort (fun a b => ordering a b != .gt)

/-- The best of some values: the first one that none after it beats, where the order `wanted` of a
later value against the best so far replaces it. -/
def bestOf (wanted : Ordering) (items : List Held) : Option Held :=
  match items with
  | [] => none
  | first :: rest =>
    some (rest.foldl (fun best item => if ordering item best == wanted then item else best) first)

/-! ## Keys -/

/-- Values with keys in the order of the keys; equal keys keep their order. -/
def sortOn (keyed : List (Held × Held)) : List (Held × Held) :=
  keyed.mergeSort (fun a b => ordering a.1 b.1 != .gt)

/-- The value to keep of the best so far, if there is one, and the next: the best so far stays unless
the key of the next has the order `wanted` against its key. -/
def better (wanted : Ordering) (best : Option (Held × Held)) (next : Held × Held) :
    Option (Held × Held) :=
  match best with
  | some best => if ordering next.1 best.1 != wanted then some best else some next
  | none => some next

/-- The best of some keyed values, from left to right. -/
def bestOn (wanted : Ordering) (keyed : List (Held × Held)) : Option (Held × Held) :=
  keyed.foldl (better wanted) none

/-- Values with the keys that an expression computes, if all have one and the keys can be sorted. -/
def keyedBy (apply : Apply) (body : Expr) (items : List Held) :
    Evaluation (Option (List (Held × Held))) := do
  match ← allOrNone (apply body) items with
  | none => return none
  | some results => return (ensureSortable results).map (·.zip items)

/-- The array of sorted values. -/
def sortedValues (keyed : List (Held × Held)) : Held := .ownArray ((sortOn keyed).map (·.2))

/-- The best value, or `null` if there is none. -/
def bestValue (wanted : Ordering) (keyed : List (Held × Held)) : Held :=
  ((bestOn wanted keyed).map (·.2)).getD .null

/-! ## Objects and strings -/

/-- One object after another: a name keeps its first place and gets its last value. -/
def mergeEntries (merged entries : Entries Held) : Entries Held :=
  entries.foldl (fun acc entry => acc.put entry.1 entry.2) merged

/-- All arguments merged, if all are objects. -/
def mergeAll (args : List Held) : Option (Entries Held) :=
  args.foldlM (fun merged arg => do return mergeEntries merged (← arg.entries?)) []

/-- The number that a text spells as a document. -/
def numberOfText (s : String) : Held :=
  match Json.parse? s with
  | some (.number n) => .number (Number.ofNumeral n)
  | _ => .null

/-! ## Calls -/

/-- The value of a call with one argument. -/
def unary? (b : Builtin) (v : Held) : Option Held :=
  match b, v.content with
  | .abs, .number n => some (.number n.abs)
  | .avg, .array items => do mean (← numbers? items)
  | .ceil, .number n => some (.number n.ceil)
  | .floor, .number n => some (.number n.floor)
  | .keys, .object entries => some (.ownArray (entries.map fun entry => .string entry.1))
  | .length, .string s => some (.number (Number.ofInt s.length))
  | .length, .array _ | .length, .object _ => some (.number (Number.ofInt v.size))
  | .max, .array items => do return (bestOf .gt (← ensureSortable items)).getD .null
  | .min, .array items => do return (bestOf .lt (← ensureSortable items)).getD .null
  | .reverse, .string s => some (.string (String.ofList s.toList.reverse))
  | .reverse, .array items => some (.ownArray items.reverse)
  | .sort, .array items => do return .ownArray (sortValues (← ensureSortable items))
  | .sum, .array items => do return .number (← Builtin.total (← numbers? items))
  | .toArray, .array _ => some v
  | .toArray, _ => some (.ownArray [v])
  | .toNumber, .number n => some (.number n)
  | .toNumber, .string s => some (numberOfText s)
  | .toNumber, _ => some .null
  | .toString, .string s => some (.string s)
  | .toString, _ => some (.string v.toJson.compact)
  | .type, _ => some (.string v.kind.typeName)
  | .values, .object entries => some (.ownArray (entries.map (·.2)))
  | _, _ => none

/-- The value of a call with two arguments. -/
def binary? (b : Builtin) (v w : Held) : Option Held :=
  match b, v.content, w.content with
  | .contains, .array items, _ => some (.bool (items.any (·.same w)))
  | .contains, .string s, .string needle =>
    some (.bool (Text.occursIn needle.toList s.toList))
  | .contains, .string _, _ => some (.bool false)
  | .endsWith, .string s, .string suffix => some (.bool (suffix.toList.isSuffixOf s.toList))
  | .join, .string glue, .array items => do
    return .string (String.intercalate glue (← items.mapM string?))
  | .startsWith, .string s, .string front => some (.bool (front.toList.isPrefixOf s.toList))
  | _, _, _ => none

/-- The value of a call that applies no reference. -/
def value? (b : Builtin) (args : List Held) : Option Held :=
  match b, args with
  | .merge, arg :: args => do return .ownObject (← mergeAll (arg :: args))
  | .notNull, arg :: args => some (((arg :: args).find? (!·.isNull)).getD .null)
  | _, [v] => unary? b v
  | _, [v, w] => binary? b v w
  | _, _ => none

/-- The value of a call. -/
def call (apply : Apply) (b : Builtin) (args : List Held) : Evaluation (Option Held) :=
  match b, args.map content with
  | .map, [.reference _ body, .array items] => do
    return (← allOrNone (apply body) items).map .ownArray
  | .sortBy, [.array items, .reference _ body] => do
    return (← keyedBy apply body items).map sortedValues
  | .maxBy, [.array items, .reference _ body] => do
    return (← keyedBy apply body items).map (bestValue .gt)
  | .minBy, [.array items, .reference _ body] => do
    return (← keyedBy apply body items).map (bestValue .lt)
  | _, _ => return value? b args

end JsonQuery.Held
