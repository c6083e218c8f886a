/-
# JsonQuery.Slice — indices and slices of a sequence.

A negative index counts from the end.  A slice has a start, a stop and a step that is not zero;
bounds that are missing stand for the ends in the direction of the step, and bounds outside are
clamped.
-/

namespace JsonQuery

/-- `start:stop:step`; the stop is excluded. -/
structure Slice where
  start : Option Int
  stop : Option Int
  step : Int
  deriving DecidableEq, Repr

namespace Slice

/-- A bound for a slice that runs forward: from the front, at most the length. -/
def clampForward (len i : Int) : Int := if i < 0 then max (i + len) 0 else min i len

/-- A bound for a slice that runs backward: one before the front up to the last index. -/
def clampBackward (len i : Int) : Int := if i < 0 then max (i + len) (-1) else min i (len - 1)

/-- Where the slice of a sequence of `len` elements starts and stops. -/
def bounds (s : Slice) (len : Nat) : Int × Int :=
  if 0 < s.step then
    ((s.start.map (clampForward len)).getD 0, (s.stop.map (clampForward len)).getD len)
  else
    ((s.start.map (clampBackward len)).getD (len - 1), (s.stop.map (clampBackward len)).getD (-1))

/-- How many steps lead from the start to before the stop. -/
def count (start stop step : Int) : Nat :=
  if 0 < step then ((stop - start + step - 1) / step).toNat
  else ((start - stop - step - 1) / (-step)).toNat

/-- The indices that the slice selects from a sequence of `len` elements, in order. -/
def indices (s : Slice) (len : Nat) : List Nat :=
  let (start, stop) := s.bounds len
  (List.range (count start stop s.step)).map fun (k : Nat) => (start + k * s.step).toNat

/-- The text of a slice; a missing bound is empty, the step is always there. -/
def toText (s : Slice) : String :=
  let bound : Option Int → String := fun b => (b.map toString).getD ""
  bound s.start ++ ":" ++ bound s.stop ++ ":" ++ toString s.step

end Slice

/-- The place of an index in a sequence of `len` elements; lengths past 63 bits have none. -/
def normalizeIndex (index : Int) (len : Nat) : Option Nat :=
  let i := if index < 0 then len + index else index
  if len < 0x8000000000000000 ∧ 0 ≤ i ∧ i < len then some i.toNat else none

end JsonQuery
