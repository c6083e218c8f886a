/-
# JsonQuery.Value.Fingerprint — what a hash of a value depends on.

A fingerprint is the sequence of marks that is fed to a hash function: the kind of the value, and
then its content, to a limited depth.  It leaves out what equality ignores, so that equal values
have equal fingerprints: the representation of a number and the order of members.
-/
import JsonQuery.Value.Order

namespace JsonQuery.Value

/-- One step of feeding a hash function. -/
inductive Mark where
  | kind (k : Kind)
  | decimal (d : Decimal)
  | float (x : Option Binary64)
  | text (s : String)
  | size (n : Nat)
  | reference (id : Nat)
  deriving DecidableEq, Repr

/-- The depth to which a fingerprint looks unless told otherwise. -/
def fingerprintDepth : Nat := 64

/-- What a number contributes: its decimal form without zeros at the end, or its binary form. -/
def numberMark (n : Number) : Mark :=
  match n.decimal? with
  | some d => .decimal d.normalize
  | none => .float n.binary?

mutual

/-- The marks of a value whose entries are sorted; below the depth only kinds count. -/
def marks : Nat → Value → List Mark
  | 0, v => [.kind v.kind]
  | _ + 1, .number n => [.kind .number, numberMark n]
  | _ + 1, .string s => [.kind .string, .text s]
  | depth + 1, .array items => .kind .array :: .size items.length :: itemMarks depth items
  | depth + 1, .object entries => .kind .object :: .size entries.length :: entryMarks depth entries
  | _ + 1, .reference id _ => [.kind .expression, .reference id]
  | _ + 1, v => [.kind v.kind]

/-- The marks of items. -/
def itemMarks (depth : Nat) : List Value → List Mark
  | [] => []
  | item :: rest => item.marks depth ++ itemMarks depth rest

/-- The marks of entries. -/
def entryMarks (depth : Nat) : List (String × Value) → List Mark
  | [] => []
  | (name, value) :: rest => .text name :: value.marks depth ++ entryMarks depth rest

end

/-- The fingerprint of a value to a depth. -/
def fingerprint (v : Value) (depth : Nat) : List Mark := v.sorted.marks depth

/-- Whether no two of the values are equal, found as in a hash set: a value is a repetition if one
before it has the same fingerprint and is equal to it. -/
def allDistinct (values : List Value) : Bool :=
  go [] values
where
  go : List (List Mark × Value) → List Value → Bool
    | _, [] => true
    | seen, v :: rest =>
      let marks := v.fingerprint fingerprintDepth
      !seen.any (fun (m, w) => m == marks && v.same w) && go ((marks, v) :: seen) rest

end JsonQuery.Value
