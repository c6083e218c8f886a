/-
# JsonQuery.Pattern.Normal — building regular expressions.

Expressions are simplified as they are built: texts side by side become one text, sequences and
choices do not nest, a choice between characters is a set, and what all branches of a choice start
with stands once before the choice.  What an expression matches does not change; its size does.
-/
import JsonQuery.Pattern.Basic

namespace JsonQuery.Pattern.Regex

/-- One character of a set. -/
def ofSet (s : CharSet) : Regex :=
  match s.only? with
  | some n => .text [Char.ofNat n]
  | none => .set s

/-- Repetition.  What reads no character need not be repeated. -/
def repeated (r : Regex) (least : Nat) (most : Option Nat) (greedy : Bool) : Regex :=
  let (least, most) :=
    if r.neverReads then (min least 1, some (most.elim 1 (min · 1))) else (least, most)
  if most = some 0 then empty
  else if least = 1 ∧ most = some 1 then r
  else .repetition r least most greedy

/-! ## Sequences -/

/-- The parts of a sequence. -/
def parts : Regex → List Regex
  | .sequence rs => rs
  | r => [r]

/-- Puts a part before others. -/
def joinText : Regex → List Regex → List Regex
  | .text cs, .text ds :: rest => .text (cs ++ ds) :: rest
  | r, rest => r :: rest

/-- Expressions one after another. -/
def inSequence (rs : List Regex) : Regex :=
  match (rs.flatMap parts).foldr joinText [] with
  | [r] => r
  | parts => .sequence parts

/-! ## Choices -/

/-- The branches of a choice. -/
def branches : Regex → List Regex
  | .choice rs => rs
  | r => [r]

/-- The character that an expression is. -/
def char? : Regex → Option CharSet
  | .text [c] => some (.single c.toNat)
  | _ => none

/-- The set that an expression is. -/
def set? : Regex → Option CharSet
  | .set s => some s
  | _ => none

/-- The parts of an expression that is a sequence. -/
def sequence? : Regex → Option (List Regex)
  | .sequence rs => some rs
  | _ => none

/-- One of some expressions; a choice between characters, or between sets, is a set. -/
def oneOf (rs : List Regex) : Regex :=
  match rs.flatMap branches with
  | [r] => r
  | branches =>
    match branches.mapM char? <|> branches.mapM set? with
    | some sets => ofSet (CharSet.unionOf sets)
    | none => .choice branches

/-- What two sequences start with. -/
def commonPrefix : List Regex → List Regex → List Regex
  | r :: rs, s :: ss => if r.same s then r :: commonPrefix rs ss else []
  | _, _ => []

/-- One of some expressions; what all start with stands before the choice. -/
def inChoice (rs : List Regex) : Regex :=
  match (rs.flatMap branches).mapM sequence? with
  | some (first :: second :: others) =>
    let common := (second :: others).foldl commonPrefix first
    if common.isEmpty then oneOf rs
    else
      let suffixes := (first :: second :: others).map fun parts =>
        inSequence (parts.drop common.length)
      inSequence (common ++ [oneOf suffixes])
  | _ => oneOf rs

end JsonQuery.Pattern.Regex
