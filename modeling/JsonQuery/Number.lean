/-
# JsonQuery.Number — numbers under evaluation.

A number has one of two representations: an exact decimal or a binary floating-point number.
Arithmetic and comparison use the decimal forms of both operands wherever they exist and the
decimal operation has a result; otherwise they fall back to binary arithmetic, whose result counts
only if it is finite.  Integers of documents start as decimals, all other numerals as binary
numbers.
-/
import JsonQuery.Json.Basic
import JsonQuery.Decimal.Convert

namespace JsonQuery

/-- A number under evaluation. -/
inductive Number where
  | decimal (d : Decimal)
  | float (x : Binary64)
  deriving DecidableEq, Repr

namespace Number

/-- An integer. -/
def ofInt (n : Int) : Number := .decimal (Decimal.ofInt n)

/-- A number of a document. -/
def ofNumeral : Json.Numeral → Number
  | .integer n => ofInt n
  | .float x => .float x

/-- The decimal form, if there is one. -/
def decimal? : Number → Option Decimal
  | .decimal d => some d
  | .float x => Decimal.ofBinary x

/-- The finite binary form, if there is one. -/
def binary? : Number → Option Binary64
  | .decimal d => some d.toBinary
  | .float x => if x.isFinite then some x else none

/-! ## Arithmetic -/

/-- An operation on the decimal forms, or else on the binary forms. -/
def combine (exact : Decimal → Decimal → Option Decimal)
    (inexact : Binary64 → Binary64 → Binary64) (a b : Number) : Option Number :=
  let exactResult := do exact (← a.decimal?) (← b.decimal?)
  match exactResult with
  | some d => some (.decimal d)
  | none => do
    let x := inexact (← a.binary?) (← b.binary?)
    if x.isFinite then some (.float x) else none

/-- An operation on the decimal form, or else on the binary number. -/
def map (exact : Decimal → Decimal) (inexact : Binary64 → Binary64) (a : Number) : Number :=
  match a.decimal? with
  | some d => .decimal (exact d)
  | none => match a with
    | .float x => .float (inexact x)
    | .decimal d => .decimal d

/-- The sum. -/
def add : Number → Number → Option Number := combine Decimal.add Binary64.add

/-- The difference. -/
def sub : Number → Number → Option Number := combine Decimal.sub Binary64.sub

/-- The product. -/
def mul : Number → Number → Option Number := combine Decimal.mul Binary64.mul

/-- The quotient. -/
def div : Number → Number → Option Number := combine Decimal.div Binary64.div

/-- The remainder of the division that truncates. -/
def rem : Number → Number → Option Number := combine Decimal.rem Binary64.rem

/-- The quotient, rounded down. -/
def divFloor : Number → Number → Option Number :=
  combine (fun a b => (a.div b).map Decimal.floor) (fun x y => (x.div y).floor)

/-- The opposite number. -/
def neg : Number → Number := map Decimal.neg Binary64.neg

/-- The absolute value. -/
def abs : Number → Number := map Decimal.abs Binary64.abs

/-- The least whole number not below. -/
def ceil : Number → Number := map Decimal.ceil Binary64.ceil

/-- The greatest whole number not above. -/
def floor : Number → Number := map Decimal.floor Binary64.floor

/-! ## Comparison -/

/-- The order of two numbers; none if one of them is neither decimal nor finite. -/
def compare (a b : Number) : Option Ordering :=
  match a.decimal?, b.decimal? with
  | some x, some y => some (x.compare y)
  | _, _ => do (← a.binary?).compare (← b.binary?)

/-- Equality is a comparison that finds no difference. -/
def same (a b : Number) : Bool := a.compare b == some .eq

/-- A number without a fraction. -/
def isInteger : Number → Bool
  | .decimal d => d.isInteger
  | .float x => x.isInteger

/-! ## Documents -/

/-- The number of a document: a whole decimal in the range of integers becomes an integer, every
other number a binary number, and what is not finite becomes `null`. -/
def toJson : Number → Json
  | .decimal d =>
    let d := d.normalize
    if d.scale = 0 ∧ Json.inIntegerRange d.coefficient = true then .number (.integer d.coefficient)
    else .number (.float d.toBinary)
  | .float x => if x.isFinite then .number (.float x) else .null

end Number

end JsonQuery
